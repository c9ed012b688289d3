import NodeFleet.Proofs.Cli.Addresses

/-!
# What the client asks for

The sessions of the commands follow a plan: which requests are made, and in which order, is
fixed before the server replies, and only a failure ends a session early (`Session.Asks`).  So
what a command's requests are about is known for every server, and the daemon reads the names
of the command from them if and only if the names are clear
(`forall₂_subject?_requests`).
-/

namespace NodeFleet.Cli

/-! ## Plans of sessions -/

namespace Session

variable {α β σ : Type}

/-- The session asks for what the plan says, in its order; only a failure ends it early. -/
inductive Asks : List (Request → Prop) → Session α → Prop
  | done (a : α) : Asks [] (.done a)
  | failed {plan : List (Request → Prop)} (message : String) : Asks plan (.failed message)
  | print {plan : List (Request → Prop)} (line : String) {next : Session α} :
      Asks plan next → Asks plan (.print line next)
  | ask {isNext : Request → Prop} {plan : List (Request → Prop)} {request : Request}
      {next : Option Reply → Session α} :
      isNext request → (∀ reply, Asks plan (next reply)) →
      Asks (isNext :: plan) (.ask request next)

/-- Whether a session begins with a request. -/
def isAsking : Session α → Bool
  | .ask .. => true
  | _ => false

theorem isAsking_bind {session : Session α} (h : session.isAsking = true) (go : α → Session β) :
    (session >>= go).isAsking = true := by
  cases session <;> first | rfl | exact nomatch h

theorem Asks.bind {session : Session α} {plan rest : List (Request → Prop)} {go : α → Session β}
    (h : session.Asks plan) (hgo : ∀ a, (go a).Asks rest) :
    (session >>= go).Asks (plan ++ rest) := by
  induction h with
  | done a => exact hgo a
  | failed message => exact .failed message
  | print line _ ih => exact .print line ih
  | ask hnext _ ih => exact .ask hnext ih

theorem Asks.bind_last {session : Session α} {plan : List (Request → Prop)} {go : α → Session β}
    (h : session.Asks plan) (hgo : ∀ a, (go a).Asks []) : (session >>= go).Asks plan := by
  rw [← List.append_nil plan]
  exact h.bind hgo

theorem asks_orFail (message : String) (result : Option α) : (orFail message result).Asks [] := by
  cases result with
  | none => exact .failed message
  | some a => exact .done a

theorem asks_say (line : String) : (say line).Asks [] :=
  .print line (.done ())

theorem asks_sayAll (lines : List String) : (sayAll lines).Asks [] := by
  induction lines with
  | nil => exact .done ()
  | cons line rest ih => exact .print line ih

/-- Against every server, what a session asked for is the beginning of its plan. -/
theorem Asks.runFrom {session : Session α} {plan : List (Request → Prop)} (h : session.Asks plan)
    (server : Request → σ → Option Reply × σ) (printed : List String) (requests : List Request)
    (s : σ) :
    ∃ asked, (runFrom server printed requests s session).1.requests.reverse =
        requests.reverse ++ asked ∧
      (session.isAsking = true → asked ≠ []) ∧
      List.Forall₂ (fun isNext request => isNext request) (plan.take asked.length) asked := by
  induction h generalizing printed requests s with
  | done a => exact ⟨[], by simp [Session.runFrom], (fun h => nomatch h), by simp⟩
  | failed message => exact ⟨[], by simp [Session.runFrom], (fun h => nomatch h), by simp⟩
  | print line _ ih =>
      obtain ⟨asked, hasked, -, hplan⟩ := ih (line :: printed) requests s
      exact ⟨asked, hasked, (fun h => nomatch h), hplan⟩
  | @ask _ _ request next hnext _ ih =>
      obtain ⟨asked, hasked, -, hplan⟩ :=
        ih (server request s).1 printed (request :: requests) (server request s).2
      refine ⟨request :: asked, ?_, fun _ => List.cons_ne_nil _ _, .cons hnext hplan⟩
      rw [Session.runFrom, hasked, List.reverse_cons, List.append_assoc]
      rfl

end Session

/-! ## Plans of commands -/

/-- What a command's requests are about, in their order. -/
def Command.subjects (format : OutputFormat) : Command → List Api.Subject
  | .listAgents => []
  | .showAgent name =>
      match format with
      | .table => [.agent name, .placements name]
      | .json => [.agent name]
  | .listPlacements agent => [.placements agent]
  | .place agent .. => [.placements agent]
  | .release agent workload => [.placement agent workload]

/-- The method of a command's requests. -/
def Command.method : Command → String
  | .place .. => "POST"
  | .release .. => "DELETE"
  | _ => "GET"

/-- A request with a method for what a subject leads to. -/
def IsFor (base : Url) (method : String) (subject : Api.Subject) (request : Request) : Prop :=
  request.method = method ∧ request.url = leadsTo base subject

namespace Client

variable {c : Client} (hpath : c.base.path = .segments [""]) (hscheme : c.base.scheme = "http")

include hpath hscheme

theorem ask_eq (method : String) (body : Option Json) {reference : String} {subject : Api.Subject}
    (href : reference.toList = Cli.reference subject) :
    c.ask method reference body =
      .ask { method, url := leadsTo c.base subject, body } fun reply =>
        Session.orFail "Failed to send request" reply := by
  have hjoin := join?_reference hpath hscheme subject
  rw [← href, String.ofList_toList] at hjoin
  rw [ask, hjoin]
  rfl

theorem asks_ask (method : String) (body : Option Json) {reference : String}
    {subject : Api.Subject} (href : reference.toList = Cli.reference subject) :
    (c.ask method reference body).Asks [IsFor c.base method subject] := by
  rw [ask_eq hpath hscheme method body href]
  exact .ask ⟨rfl, rfl⟩ fun reply => Session.asks_orFail _ reply

theorem isAsking_ask (method : String) (body : Option Json) {reference : String}
    {subject : Api.Subject} (href : reference.toList = Cli.reference subject) :
    (c.ask method reference body).isAsking = true := by
  rw [ask_eq hpath hscheme method body href]
  rfl

theorem asks_get {α : Type} (decode : Json.Decoder α) {reference : String} {subject : Api.Subject}
    (href : reference.toList = Cli.reference subject) :
    (c.get reference decode).Asks [IsFor c.base "GET" subject] := by
  refine (asks_ask hpath hscheme "GET" none href).bind_last fun reply => ?_
  split_ifs
  · exact Session.asks_orFail _ _
  · exact .failed _

theorem asks_placements (agent : String) :
    (c.placements agent).Asks [IsFor c.base "GET" (.placements agent)] :=
  asks_get hpath hscheme _ (toList_placementsPath agent)

theorem asks_showAgent (name : String) :
    (c.showAgent name).Asks
      (((Command.showAgent name).subjects c.format).map (IsFor c.base "GET")) := by
  have hagent := asks_get hpath hscheme AgentView.ofJson (toList_agentPath name)
  have hplacements := asks_placements hpath hscheme name
  rw [showAgent]
  cases hformat : c.format with
  | json => exact hagent.bind fun agent => Session.asks_say _
  | table =>
      refine hagent.bind fun agent => (Session.asks_sayAll _).bind fun _ => ?_
      refine hplacements.bind_last fun records => ?_
      split_ifs
      · exact .done ()
      · exact Session.asks_sayAll _

/-- Every command but the list of all agents follows the plan of its subjects. -/
theorem asks_perform {command : Command} (hcommand : command ≠ .listAgents) :
    (c.perform command).Asks
      ((command.subjects c.format).map (IsFor c.base command.method)) := by
  cases command with
  | listAgents => exact absurd rfl hcommand
  | showAgent name => exact asks_showAgent hpath hscheme name
  | listPlacements agent =>
      refine (asks_placements hpath hscheme agent).bind_last fun records => ?_
      cases c.format <;> exact Session.asks_say _
  | place agent workload cpuMillis memory gpuCount =>
      refine (asks_ask hpath hscheme "POST" _ (toList_placementsPath agent)).bind_last
        fun reply => ?_
      split_ifs
      · exact .failed _
      · refine (Session.asks_orFail _ _).bind_last fun verdict => ?_
        cases c.format <;> exact Session.asks_say _
  | release agent workload =>
      refine (asks_ask hpath hscheme "DELETE" none (toList_placementPath agent workload)).bind_last
        fun reply => ?_
      split_ifs
      · exact Session.asks_say _
      · exact .failed _

theorem isAsking_perform {command : Command} (hcommand : command ≠ .listAgents) :
    (c.perform command).isAsking = true := by
  cases command with
  | listAgents => exact absurd rfl hcommand
  | showAgent name =>
      have hask := isAsking_ask hpath hscheme "GET" none (toList_agentPath name)
      exact Session.isAsking_bind (Session.isAsking_bind hask _) _
  | listPlacements agent =>
      have hask := isAsking_ask hpath hscheme "GET" none (toList_placementsPath agent)
      exact Session.isAsking_bind (Session.isAsking_bind hask _) _
  | place agent =>
      exact Session.isAsking_bind
        (isAsking_ask hpath hscheme "POST" _ (toList_placementsPath agent)) _
  | release agent workload =>
      exact Session.isAsking_bind
        (isAsking_ask hpath hscheme "DELETE" none (toList_placementPath agent workload)) _

end Client

/-! ## The names in the requests -/

/-- A request to a daemon that is about a subject, as far as the names of the subject are clear. -/
structure Addresses (base : Url) (method : String) (subject : Api.Subject) (request : Request) :
    Prop where
  method : request.method = method
  host : request.url.host = base.host
  port : request.url.port = base.port
  reads : Api.subject? request.url.target = some subject ↔ subject.IsClear
  distinct : subject.IsClear → ∀ other : Api.Subject, (∀ name ∈ other.names, name ≠ "") →
    other.IsClear → leadsTo base other = request.url → other = subject

theorem exists_of_forall₂ {α β : Type} {R : α → β → Prop} {as : List α} {bs : List β}
    (h : List.Forall₂ R as bs) {b : β} (hb : b ∈ bs) : ∃ a ∈ as, R a b := by
  induction h with
  | nil => exact nomatch hb
  | @cons a _ _ _ hab _ ih =>
      rcases List.mem_cons.1 hb with rfl | hb
      · exact ⟨a, List.mem_cons_self, hab⟩
      · obtain ⟨a, ha, hR⟩ := ih hb
        exact ⟨a, List.mem_cons_of_mem _ ha, hR⟩

/-- Whatever the server replies, a command asks the daemon it was given, for its subjects in their
order.  The daemon reads a subject from a request if and only if the names of the subject are
clear, and then it releases what the command named. -/
theorem addresses_requests {authority : String}
    (hauthority : ∀ c ∈ authority.toList, Url.endsAuthority true c = false) {c : Client}
    (hbase : Url.read? ("http://" ++ authority) = some c.base) {command : Command}
    (hcommand : command ≠ .listAgents)
    (hnames : ∀ subject ∈ command.subjects c.format, ∀ name ∈ subject.names, name ≠ "")
    {σ : Type} (server : Request → σ → Option Reply × σ) (s : σ) :
    let asked := ((c.perform command).run server s).1.requests.reverse
    asked ≠ [] ∧
      List.Forall₂ (Addresses c.base command.method)
        ((command.subjects c.format).take asked.length) asked ∧
      ∀ agent workload, command = .release agent workload →
        (Api.Subject.placement agent workload).IsClear →
        ∀ request ∈ asked, ∀ (f : Fleet) (r : Api.Request), r.method = request.method →
          r.target = request.url.target →
          Api.handle f r = Api.releasePlacement f agent workload := by
  obtain ⟨hscheme, hpath⟩ := Url.read?_http hauthority hbase
  obtain ⟨asked, hasked, hne, hplan⟩ :=
    (Client.asks_perform hpath hscheme hcommand).runFrom server [] [] s
  rw [← List.map_take, List.forall₂_map_left_iff] at hplan
  have haddresses : List.Forall₂ (Addresses c.base command.method)
      ((command.subjects c.format).take asked.length) asked := by
    have hall := (List.forall₂_and_left _ _).2
      ⟨fun subject hsubject => hnames subject (List.mem_of_mem_take hsubject), hplan⟩
    refine hall.imp fun subject request ⟨hsubject, hmethod, hurl⟩ => ?_
    refine ⟨hmethod, by rw [hurl]; rfl, by rw [hurl]; rfl, ?_, ?_⟩
    · rw [hurl]
      exact subject?_leadsTo_iff hscheme hsubject
    · intro hclear other hother hotherClear heq
      exact eq_of_leadsTo_eq hscheme hother hsubject hotherClear hclear (heq.trans hurl)
  intro requests
  obtain rfl : requests = asked := hasked
  refine ⟨hne (Client.isAsking_perform hpath hscheme hcommand), haddresses, ?_⟩
  rintro agent workload rfl hclear request hrequest f r hmethod htarget
  obtain ⟨subject, hsubject, haddress⟩ := exists_of_forall₂ haddresses hrequest
  obtain rfl : subject = .placement agent workload :=
    List.mem_singleton.1 (List.mem_of_mem_take hsubject)
  exact Api.handle_placement (hmethod.trans haddress.method)
    (htarget ▸ haddress.reads.2 hclear) f

theorem addresses_requests_release :
    ∃ c : Client, Url.read? ("http://" ++ "fleet:8080") = some c.base ∧
      let asked := ((c.perform (.release "alpha" "job-1")).run (fun _ s => (none, s)) ()).1.requests
      asked.reverse ≠ [] ∧ ∀ request ∈ asked.reverse, ∀ f,
        Api.handle f ⟨request.method, request.url.target, "", none⟩ =
          Api.releasePlacement f "alpha" "job-1" := by
  have hauthority : ∀ c ∈ "fleet:8080".toList, Url.endsAuthority true c = false := by decide
  have hclear : (Api.Subject.placement "alpha" "job-1").IsClear :=
    ⟨by decide, by decide, by decide⟩
  have hcommand : Command.release "alpha" "job-1" ≠ .listAgents := nofun
  have hnames : ∀ subject ∈ (Command.release "alpha" "job-1").subjects .table,
      ∀ name ∈ subject.names, name ≠ "" := by decide
  obtain ⟨base, hbase⟩ : ∃ base, Url.read? ("http://" ++ "fleet:8080") = some base := ⟨_, rfl⟩
  refine ⟨⟨base, ⟨false⟩, .table⟩, hbase, ?_⟩
  obtain ⟨hne, -, hrelease⟩ := addresses_requests (c := ⟨base, ⟨false⟩, .table⟩) hauthority hbase
    hcommand hnames (fun _ s => (none, s)) ()
  exact ⟨hne, fun request hrequest f => hrelease _ _ rfl hclear request hrequest f _ rfl rfl⟩

/-- A question mark ends the path, so another workload is released than the one that was named. -/
theorem subject?_release_question_mark :
    ∃ c : Client, Url.read? ("http://" ++ "fleet:8080") = some c.base ∧
      ((c.perform (.release "n" "a?b")).run (fun _ s => (none, s)) ()).1.requests.map
          (fun request => (request.method, Api.subject? request.url.target)) =
        [("DELETE", some (.placement "n" "a"))] := by
  refine ⟨⟨_, ⟨false⟩, .table⟩, rfl, ?_⟩
  decide +kernel

end NodeFleet.Cli
