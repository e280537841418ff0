import DelegationAudit.Proofs.FrontEnds
import DelegationAudit.Proofs.Itinerary
import DelegationAudit.Proofs.Printing

namespace DelegationAudit

structure Response.Tells (response : Response) (zone : String) (r : Report) : Prop where
  target : Json.find? "target" response.toJson = some (.str zone)
  report : (Json.find? "checks" response.toJson).bind (Json.field? "delegation") = some (.obj r.toJson)
  zone : Json.find? "zone" r.toJson = some (.str (Zone.normalize zone))

section Audits

variable {τ : Type} [Instant τ]

/-- These responses were made by one audit of each zone, one after another. -/
inductive Audited (settings : Settings τ) : List String → List Response → Session τ → Session τ → Prop
  | nil (s : Session τ) : Audited settings [] [] s s
  | cons {zone : String} {zones : List String} {r : Report} {response : Response}
      {responses : List Response} {s t u : Session τ}
      (audit : auditZone settings zone s = (.ok r, t)) (tells : response.Tells zone r)
      (rest : Audited settings zones responses t u) :
      Audited settings (zone :: zones) (response :: responses) s u

theorem Audited.length_eq {settings : Settings τ} {zones : List String} {responses : List Response}
    {s t : Session τ} (h : Audited settings zones responses s t) : responses.length = zones.length := by
  induction h with
  | nil => rfl
  | cons audit tells rest ih => rw [List.length_cons, List.length_cons, ih]

/-- The time that each of these audits takes can be told in whole thousandths. -/
def Timed (settings : Settings τ) : List String → Session τ → Prop
  | [], _ => True
  | zone :: zones, s =>
    (∃ millis, elapsed s (auditZone settings zone s).2 = .ok millis) ∧
      Timed settings zones (auditZone settings zone s).2

theorem respond_ok {settings : Settings τ} {zone : String} {s t : Session τ} {r : Report} (source : String)
    (h : auditZone settings zone s = (.ok r, t)) :
    ∃ response, respond settings source zone s = (.ok response, t) ∧ response.Tells zone r := by
  have hreturned : r.Returned τ := ⟨settings, zone, s, congrArg Prod.fst h⟩
  have hmade : ∀ c ∈ [("delegation", r)], c.2.Made τ := by simpa using hreturned.made
  have hopen : ∀ c ∈ [("delegation", r)], "_sa".isPrefixOf c.1 = false := by
    simp [String.isPrefixOf]
  have hchecks := Response.clean_checks hmade hopen
  simp only [List.map_cons, List.map_nil] at hchecks
  have hzone : r.zone = Zone.normalize zone := (auditZone_names (congrArg Prod.fst h)).1
  obtain ⟨response, hbuilt, htarget, hreport⟩ : ∃ response,
      Response.build zone [("delegation", .report r)] (origin source) = .ok response ∧
      response.target = zone ∧ response.checks = [("delegation", .obj r.toJson)] :=
    ⟨_, Response.build_report zone "delegation" r (origin source), rfl, hchecks⟩
  refine ⟨response, ?_, ?_, ?_, ?_⟩
  · unfold respond
    split
    next e u he => cases h.symm.trans he
    next report u he =>
      cases h.symm.trans he
      rw [hbuilt]
  · rw [← htarget]
    rfl
  · change (some (Json.obj response.checks)).bind (Json.field? "delegation") = _
    rw [hreport]
    rfl
  · rw [← hzone]
    rfl

theorem Response.Tells.page_ok {response : Response} {zone : String} {r : Report}
    (h : response.Tells zone r) : ∃ page, Page.text response.toJson = .ok page :=
  Page.text_ok response h.report

end Audits

namespace CommandLine

theorem respondAll_audited {settings : Settings Float} {zones : List String} {s : Session Float}
    (hs : s.network.Orderly) (ht : Timed settings zones s) :
    ∃ responses t, respondAll settings zones s = (.ok responses, t) ∧
      Audited settings zones responses s t := by
  induction zones generalizing s with
  | nil => exact ⟨[], s, rfl, .nil s⟩
  | cons zone zones ih =>
    obtain ⟨htime, hrest⟩ := ht
    obtain ⟨p, hp⟩ :=
      (Scan.start settings s.network.clock).survey_ok (Zone.normalize zone) hs
    have hleads := (auditZone_passes settings zone s).leads
    obtain ⟨responses, t, hall, haudited⟩ := ih (hs.leads hleads) hrest
    obtain ⟨r, hr⟩ : ∃ r, (auditZone settings zone s).1 = .ok r := by
      rw [auditZone_of_survey hp] at htime ⊢
      exact (Scan.stamp_ok_iff _ _).mpr htime
    have haudit := eq_pair_of_fst hr
    obtain ⟨response, hresponse, htells⟩ := respond_ok "cli" haudit
    refine ⟨response :: responses, t, ?_, .cons haudit htells haudited⟩
    rw [respondAll, hresponse, followedBy, hall]

theorem pages_ok {settings : Settings Float} {zones : List String} {responses : List Response}
    {s t : Session Float} (h : Audited settings zones responses s t) :
    ∃ text, pages responses = .ok text := by
  have hpages : ∀ r ∈ responses, ∃ page, Page.text r.toJson = .ok page := by
    induction h with
    | nil => simp
    | cons audit tells rest ih =>
      intro r hr
      rcases List.mem_cons.mp hr with rfl | hr
      · exact tells.page_ok
      · exact ih r hr
  obtain ⟨texts, htexts⟩ := exists_mapM_eq_ok_iff.mpr hpages
  refine ⟨String.join texts, ?_⟩
  rw [pages, htexts]
  rfl

/-- A line for each zone that is refused, in the order of the zones, and none for the others. -/
inductive Refused : List String → List String → Prop
  | nil : Refused [] []
  | accepted {zone accepted : String} {zones lines : List String} (h : Zone.accept zone = .ok accepted)
      (rest : Refused zones lines) : Refused (zone :: zones) lines
  | rejected {zone : String} {e : Zone.Rejection} {zones lines : List String}
      (h : Zone.accept zone = .error e) (rest : Refused zones lines) :
      Refused (zone :: zones) (refusal zone e :: lines)

abbrev Accepted (zones accepted : List String) : Prop :=
  List.Forall₂ (fun zone z => Zone.accept zone = .ok z) zones accepted

theorem refused_of_accepted {zones accepted : List String} (h : Accepted zones accepted) :
    Refused zones [] := by
  induction h with
  | nil => exact .nil
  | cons hzone rest ih => exact .accepted hzone ih

theorem Refused.unique {zones lines more : List String} (h : Refused zones lines)
    (h' : Refused zones more) : lines = more := by
  induction h generalizing more with
  | nil =>
    cases h'
    rfl
  | accepted hzone rest ih =>
    cases h' with
    | accepted _ rest' => exact ih rest'
    | rejected hzone' rest' => cases hzone.symm.trans hzone'
  | rejected hzone rest ih =>
    cases h' with
    | accepted hzone' rest' => cases hzone.symm.trans hzone'
    | rejected hzone' rest' =>
      cases hzone.symm.trans hzone'
      rw [ih rest']

theorem gate_cases (zones : List String) :
    (∃ accepted, gate zones = .accepted accepted ∧ Accepted zones accepted) ∨
      ∃ lines, gate zones = .refused lines ∧ lines ≠ [] ∧ Refused zones lines := by
  induction zones with
  | nil => exact .inl ⟨[], rfl, .nil⟩
  | cons zone zones ih =>
    cases hzone : Zone.accept zone with
    | ok z =>
      rcases ih with ⟨accepted, hgate, hall⟩ | ⟨lines, hgate, hsome, hlines⟩
      · refine .inl ⟨z :: accepted, ?_, .cons hzone hall⟩
        rw [gate, hzone, hgate]
      · refine .inr ⟨lines, ?_, hsome, .accepted hzone hlines⟩
        rw [gate, hzone, hgate]
    | error e =>
      rcases ih with ⟨accepted, hgate, hall⟩ | ⟨lines, hgate, -, hlines⟩
      · refine .inr ⟨[refusal zone e], ?_, by simp, .rejected hzone (refused_of_accepted hall)⟩
        rw [gate, hzone, hgate]
      · refine .inr ⟨refusal zone e :: lines, ?_, by simp, .rejected hzone hlines⟩
        rw [gate, hzone, hgate]

/-- A run that ends at zones which are refused, with nothing sent. -/
structure Stopped (zones : List String) (w : Network Float) (run : Run) : Prop where
  exit : run.exit = .ok 2
  output : ∃ lines, lines ≠ [] ∧ Refused zones lines ∧
    run.output = String.join (lines.map (· ++ "\n"))
  complaint : run.complaint = none
  network : run.network = w

/-- A run that audits each zone once, in order, and sends nothing else. -/
structure Finished (settings : Settings Float) (zones : List String) (json : Bool) (w : Network Float)
    (run : Run) : Prop where
  exit : run.exit = .ok 0
  audits : ∃ responses after, Audited settings zones responses ⟨w, []⟩ after ∧
    run.network = after.network ∧ (json = true → run.output = (Json.obj [("targets", .strings zones),
      ("results", .arr (responses.map fun r => .obj r.toJson))]).indented ++ "\n")

theorem audit_finished (o : Options) {settings : Settings Float} {zones : List String} {w : Network Float}
    (hw : w.Orderly) (ht : Timed settings zones ⟨w, []⟩) :
    Finished settings zones o.json w (audit o settings zones w) := by
  obtain ⟨responses, after, hall, haudited⟩ := respondAll_audited hw ht
  obtain ⟨text, htext⟩ := pages_ok haudited
  rw [audit, hall]
  dsimp only
  cases hjson : o.json with
  | true => exact ⟨rfl, responses, after, haudited, rfl, fun _ => rfl⟩
  | false =>
    rw [if_neg Bool.false_ne_true, htext]
    exact ⟨rfl, responses, after, haudited, rfl, fun h => absurd h Bool.false_ne_true⟩

/-- Audits that end in a failure leave nothing printed. -/
theorem audit_silent (o : Options) (settings : Settings Float) (zones : List String) (w : Network Float) :
    (audit o settings zones w).exit = .ok 0 ∨ (audit o settings zones w).output = "" := by
  rw [audit]
  generalize respondAll settings zones ⟨w, []⟩ = outcome
  obtain ⟨answer, s⟩ := outcome
  cases answer with
  | error e => exact .inr rfl
  | ok responses =>
    dsimp only
    by_cases hjson : o.json = true
    · rw [if_pos hjson]
      exact .inl rfl
    · rw [if_neg hjson]
      cases pages responses with
      | ok text => exact .inl rfl
      | error e => exact .inr rfl

section Runs

variable {env : Environment} {w : Network Float} {settings : Settings Float} {words : List String}
  {o : Options} (hs : Settings.fromEnvironment env w = .ok settings) (hread : read settings words = .ok o)

include hs hread

theorem run_refused {lines : List String} (hgate : gate o.zones = .refused lines) :
    run env words w = ⟨.ok 2, String.join (lines.map (· ++ "\n")), none, [], w⟩ := by
  rw [run, hs]
  dsimp only
  rw [hread]
  dsimp only
  rw [hgate]

theorem run_accepted {accepted : List String} (hgate : gate o.zones = .accepted accepted)
    {audited : Settings Float} (haudited : settingsOf o w = .ok audited) :
    run env words w = audit o audited accepted w := by
  rw [run, hs]
  dsimp only
  rw [hread]
  dsimp only
  rw [hgate]
  dsimp only
  rw [haudited]

end Runs

end CommandLine

theorem Zone.normalize_accepted {target zone : String} (h : Zone.accept target = .ok zone)
    (hlast : zone.toList.getLast? ≠ some '\n') : Zone.normalize zone = zone := by
  obtain ⟨-, name, -, hmany, hall, hz⟩ := Zone.acceptChars_eq_ok.mp (Zone.accept_eq_ok.mp h)
  have haccepted := Zone.accepted_of_labels hmany hall
  rw [← hz] at haccepted
  rw [Zone.normalize_eq_self]
  exact haccepted.normalizeChars_iff.mpr hlast

def Zone.Plain (zone : String) : Prop :=
  ∀ c ∈ zone.toList, c.isAlphanum = true ∨ c = '-' ∨ c = '_' ∨ c = '.'

theorem Zone.Plain.normalize_eq {target zone : String} (h : Zone.Plain zone)
    (hz : Zone.accept target = .ok zone) : Zone.normalize zone = zone := by
  apply Zone.normalize_accepted hz
  intro hlast
  have hbreak := h '\n' (List.mem_of_getLast? hlast)
  revert hbreak
  decide

/-- A zone that is refused gets the answer of a bad request, and nothing is sent. -/
theorem Web.get_refused {τ : Type} [Instant τ] (settings : Settings τ) {zone : String}
    (hl : 1 ≤ zone.length ∧ zone.length ≤ 253) {e : Zone.Rejection} (hz : Zone.accept zone = .error e)
    (s : Session τ) : Web.get settings "/check" [("zone", zone)] s = (.ok (Web.detail 400 e.message), s) := by
  rw [Web.get_check settings hl, Web.check, hz]

namespace CommandLine

/-- What comes of a command line that can be read. Zones that are refused end it before anything is sent;
otherwise nothing is printed unless all is well, which it is on an orderly network whose times can be
told, and the reports are then about the zones as they were accepted. -/
def AllOrNothing (o : Options) (audited : Settings Float) (w : Network Float) (run : Run) : Prop :=
  Stopped o.zones w run ∨ ∃ accepted, Accepted o.zones accepted ∧
    (run.exit = .ok 0 ∨ run.output = "") ∧
    (w.Orderly → Timed audited accepted ⟨w, []⟩ → Finished audited accepted o.json w run) ∧
    ∀ zone ∈ accepted, Zone.Plain zone → Zone.normalize zone = zone

theorem accepted_normalize {zones accepted : List String} (h : Accepted zones accepted) :
    ∀ zone ∈ accepted, Zone.Plain zone → Zone.normalize zone = zone := by
  induction h with
  | nil => simp
  | cons hzone rest ih =>
    intro zone hmem hplain
    rcases List.mem_cons.mp hmem with rfl | hmem
    · exact hplain.normalize_eq hzone
    · exact ih zone hmem hplain

theorem allOrNothing_of_read {env : Environment} {w : Network Float} {settings : Settings Float}
    (hs : Settings.fromEnvironment env w = .ok settings) {words : List String} {o : Options}
    (hread : read settings words = .ok o) {audited : Settings Float}
    (haudited : settingsOf o w = .ok audited) : AllOrNothing o audited w (run env words w) := by
  rcases gate_cases o.zones with ⟨accepted, hgate, hall⟩ | ⟨lines, hgate, hsome, hlines⟩
  · rw [run_accepted hs hread hgate haudited]
    exact .inr ⟨accepted, hall, audit_silent o audited accepted w, audit_finished o,
      accepted_normalize hall⟩
  · rw [run_refused hs hread hgate]
    exact .inl ⟨rfl, ⟨lines, hsome, hlines, rfl⟩, rfl, rfl⟩

/-- The front ends do all or nothing. Every command line that can be read audits all of its zones or, for
one that is refused, none of them; command lines of zones and switches can be read; and the site answers
a zone that is refused without a message. -/
theorem run_allOrNothing {env : Environment} {w : Network Float} {settings : Settings Float}
    (hs : Settings.fromEnvironment env w = .ok settings) :
    (∀ (words : List String) o audited, read settings words = .ok o → settingsOf o w = .ok audited →
      AllOrNothing o audited w (run env words w)) ∧
    (∀ (zones : List String) (fs : List Flag), zones ≠ [] → (∀ z ∈ zones, z.toList.head? ≠ some '-') →
      (∀ f ∈ fs, f ∈ switches) →
      ∃ o audited, read settings (zones ++ fs.map Flag.word) = .ok o ∧ settingsOf o w = .ok audited ∧
        o.zones = zones ∧ (o.json = true ↔ Flag.json ∈ fs)) ∧
    ∀ (zone : String) e s, 1 ≤ zone.length ∧ zone.length ≤ 253 → Zone.accept zone = .error e →
      Web.get settings "/check" [("zone", zone)] s = (.ok (Web.detail 400 e.message), s) := by
  refine ⟨fun words o audited hread haudited => allOrNothing_of_read hs hread haudited, ?_,
    fun zone e s hl hz => Web.get_refused settings hl hz s⟩
  intro zones fs hne hzones hfs
  refine ⟨_, _, read_zones hzones hfs hne settings, settingsOf_zones settings zones fs w, rfl, ?_⟩
  simp [Options.switched, Options.ofSettings]

/-- One zone given twice is audited twice; with a zone that is refused beside it nothing is sent. -/
theorem run_allOrNothing_twice :
    let w := twoAddresses []
    Settings.fromEnvironment [] w = .ok .default ∧
      (∃ first second after,
        Audited .default ["example.com", "example.com"] [first, second] ⟨w, []⟩ after ∧
        (run [] ["Example.com.", "example.com", "--json"] w).exit = .ok 0 ∧
        (run [] ["Example.com.", "example.com", "--json"] w).output =
          (Json.obj [("targets", .arr [.str "example.com", .str "example.com"]),
            ("results", .arr [.obj first.toJson, .obj second.toJson])]).indented ++ "\n") ∧
      (run [] ["Example.com.", "x y", "--json"] w).output = "Invalid input: x y: Invalid domain format\n" ∧
      (run [] ["Example.com.", "x y", "--json"] w).network = w := by
  intro w
  have hs : Settings.fromEnvironment [] w = .ok .default := rfl
  obtain ⟨hread, -, -⟩ := run_allOrNothing hs
  have hzone : Zone.accept "Example.com." = .ok "example.com" := by decide +kernel
  have hself : Zone.accept "example.com" = .ok "example.com" := by decide +kernel
  have hbad : Zone.accept "x y" = .error .blank := by decide +kernel
  have hswitch : ∀ f ∈ [Flag.json], f ∈ switches := by decide
  have htwice : read .default (["Example.com.", "example.com"] ++ [Flag.json].map Flag.word) = _ :=
    read_zones (by decide) hswitch (List.cons_ne_nil _ _) .default
  have hmixed : read .default (["Example.com.", "x y"] ++ [Flag.json].map Flag.word) = _ :=
    read_zones (by decide) hswitch (List.cons_ne_nil _ _) .default
  have htold : ∀ spent : Except Number.NotFinite Int, spent.isOk = true → ∃ millis, spent = .ok millis := by
    intro spent hspent
    cases spent with
    | error e => cases hspent
    | ok millis => exact ⟨millis, rfl⟩
  have htimed : Timed .default ["example.com", "example.com"] ⟨w, []⟩ :=
    ⟨htold _ (by decide +kernel), htold _ (by decide +kernel), trivial⟩
  have htwiceAccepted : Accepted ["Example.com.", "example.com"] ["example.com", "example.com"] :=
    .cons hzone (.cons hself .nil)
  have hmixedRefused : Refused ["Example.com.", "x y"] [refusal "x y" .blank] :=
    .accepted hzone (.rejected hbad .nil)
  refine ⟨hs, ?_, ?_⟩
  · rcases hread _ _ .default htwice rfl with ⟨-, ⟨lines, hsome, hlines, -⟩, -, -⟩ |
      ⟨accepted, haccepted, -, hfinished, -⟩
    · exact absurd (hlines.unique (refused_of_accepted htwiceAccepted)) hsome
    · obtain ⟨first, rest, hfirst, hrest, rfl⟩ := List.forall₂_cons_left_iff.mp haccepted
      obtain ⟨second, none, hsecond, hnone, rfl⟩ := List.forall₂_cons_left_iff.mp hrest
      cases hzone.symm.trans hfirst
      cases hself.symm.trans hsecond
      cases List.forall₂_nil_left_iff.mp hnone
      obtain ⟨hexit, responses, after, haudited, -, houtput⟩ := hfinished twoAddresses_orderly htimed
      obtain ⟨first, second, rfl⟩ := List.length_eq_two.mp haudited.length_eq
      exact ⟨first, second, after, haudited, hexit, houtput rfl⟩
  · rcases hread _ _ .default hmixed rfl with ⟨-, ⟨lines, -, hlines, houtput⟩, -, hnetwork⟩ |
      ⟨accepted, haccepted, -, -, -⟩
    · rw [hlines.unique hmixedRefused] at houtput
      exact ⟨houtput.trans (by decide +kernel), hnetwork⟩
    · cases (refused_of_accepted haccepted).unique hmixedRefused

/-- A network whose servers fail with an error that is none of an exchange. -/
def broken : Network Float := .start 0 1 [.always none "a.b." "NS" (.error (.plain .runtime "boom"))] []

/-- Such an error goes through everything: the zone is accepted, and the run ends without a code. -/
theorem run_broken_fails :
    Settings.fromEnvironment [] broken = .ok .default ∧ Zone.accept "a.b" = .ok "a.b" ∧
      ∀ code, (run [] ["a.b", "--json"] broken).exit ≠ .ok code := by
  have hs : Settings.fromEnvironment [] broken = .ok .default := rfl
  have hnone : (run [] ["a.b", "--json"] broken).exit.toOption = none := by decide +kernel
  refine ⟨hs, by decide +kernel, ?_⟩
  intro code hcode
  rw [hcode] at hnone
  cases hnone

end CommandLine

end DelegationAudit
