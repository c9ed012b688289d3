/-!
# Powers

A power of natural numbers is always the one that the language itself defines, also where
a library is imported that brings another, equal one.  So `2 ^ 64` is the same term in a
definition and in the theorems about it.
-/

attribute [instance (20000), default_instance (20000)] instPowNat
