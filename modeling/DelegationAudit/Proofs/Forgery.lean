import DelegationAudit.Proofs.ForeignTexts

namespace DelegationAudit

open Dns Text

variable {τ : Type}

/-- No string of a text record holds the octet of a line break. -/
def Dns.Record.Quiet (r : Record) : Prop := ∀ strings, r.data = .txt strings → ∀ s ∈ strings, 10 ∉ s

def Answer.Quiet (answer : Answer) : Prop := ∀ r ∈ recordsOf answer.sets, r.Quiet

/-- A result of which this holds, or a failure without a line break in its message. -/
def Quietly {α : Type} (P : α → Prop) : Except Failure α → Prop
  | .ok a => P a
  | .error e => breaks e.message = 0

def Network.Quiet (w : Network τ) : Prop :=
  ∀ rule ∈ w.rules, ∀ reply ∈ rule.replies, Quietly Answer.Quiet reply.outcome

def Ownership.Quiet (o : Ownership) : Prop := ∀ t ∈ o.foreign, breaks t = 0

/-- No line break in what the servers say and have said. -/
structure Session.Quiet (session : Session τ) : Prop where
  network : session.network.Quiet
  cache : ∀ row ∈ session.cache, row.2.info.Quiet

section Failures

variable [Instant τ] {w : Network τ}

theorem Network.Quiet.leads (h : w.Quiet) {v : Network τ} (hl : w.Leads v) : v.Quiet :=
  replies_of_script hl.script
    (P := fun replies => ∀ reply ∈ replies, Quietly Answer.Quiet reply.outcome) h

theorem Network.Quiet.exchange (h : w.Quiet) (call : Call τ) :
    Quietly Answer.Quiet (w.exchange call).1 := by
  rw [Network.exchange]
  dsimp only
  split
  next => exact (rfl : breaks Failure.timedOut.message = 0)
  next reply rest hs =>
    obtain ⟨rule, hrule, hreply⟩ := (select_script hs).1
    exact h rule hrule reply hreply

namespace Client

variable (c : Client τ) (name : String) (type : RecordType) {server : String} (secure : Bool)

theorem ask_quiet (hserver : breaks server = 0) (h : w.Quiet) :
    Quietly (fun outcome => ∀ r ∈ outcome.records, r.Quiet) (c.ask name type server secure w).1 := by
  rw [ask]
  split
  next e he =>
    rw [buildQuery] at he
    split at he
    next => cases he
    next fault _ =>
      cases he
      exact breaks_invalidQuestion (breaks_ofNameError fault)
  next query _ =>
    have hanswer := h.exchange ⟨server, c.port, c.timeout, query⟩
    split
    next e w' he =>
      rw [he] at hanswer
      split
      next habsorbed => exact breaks_transport hserver hanswer habsorbed
      next => exact hanswer
    next answer w' he =>
      rw [he] at hanswer
      split
      · exact hanswer
      · exact breaks_rejected answer.code

theorem resolve_quiet (hserver : breaks server = 0) (h : w.Quiet) :
    Quietly (fun result => ∀ r ∈ result.1, r.Quiet) (c.resolve name type server secure w).1 := by
  have hask := c.ask_quiet name type secure hserver h
  rw [resolve]
  split
  next e w' he =>
    rw [he] at hask
    exact hask
  next outcome w' he =>
    rw [he] at hask
    split
    next => exact breaks_noRecords type
    next r rest hrecords =>
      intro q hq
      have hmem : q ∈ filterByType [type] outcome.records := hrecords ▸ hq
      exact hask q (List.mem_of_mem_filter hmem)

end Client

theorem Network.Met.quiet {resolver : String} {e : Failure} (h : w.Met resolver e) (hw : w.Quiet)
    (hresolver : breaks resolver = 0) : breaks e.message = 0 := by
  obtain ⟨c, name, type, server, v, hl, hasked, he⟩ := h
  have hserver : breaks server = 0 := by
    rcases hasked with rfl | ⟨a, ha, rfl⟩
    · exact hresolver
    · exact breaks_address ha
  have hresolve := c.resolve_quiet name type false hserver (hw.leads hl)
  rw [he] at hresolve
  exact hresolve

end Failures

section Owners

theorem breaks_nonEmpty {part : List Char} (h : '\n' ∉ part) {t : String}
    (ht : Ownership.nonEmpty part = some t) : breaks t = 0 := by
  rw [Ownership.nonEmpty] at ht
  split at ht
  · cases ht
  · cases ht
    exact breaks_ofList h

theorem break_not_mem_fieldsOf {text part : List Char} (h : '\n' ∉ text)
    (hpart : part ∈ Ownership.fieldsOf text) : '\n' ∉ part :=
  fun hbreak => h (mem_of_mem_fieldsOf hpart hbreak)

theorem Dns.Record.Quiet.text {r : Record} (h : r.Quiet) {strings : List (List Octet)}
    (hr : r.data = .txt strings) : '\n' ∉ Ownership.textOf strings := by
  intro hbreak
  obtain ⟨s, hs, hten⟩ := break_mem_textOf hbreak
  exact h strings hr s hs hten

variable [Instant τ]

namespace Ownership.Source

variable (source : Source τ) {w : Network τ}

theorem ask_quiet (hserver : breaks source.server = 0) (h : w.Quiet) {name : String}
    {found : List (List Char)} {w' : Network τ} (hask : source.ask name w = (.ok found, w')) :
    ∀ part ∈ found, '\n' ∉ part := by
  have hresolve := source.client.resolve_quiet name .txt false hserver h
  rw [ask] at hask
  split at hask
  next => cases hask
  next records t v he =>
    rw [he] at hresolve
    split at hask
    next strings hdata =>
      cases hask
      obtain ⟨r, hr, hstrings⟩ := Option.map_eq_some_iff.mp hdata
      have hquiet : r.Quiet := hresolve r (List.mem_of_mem_head? hr)
      exact fun part hpart => break_not_mem_fieldsOf (hquiet.text hstrings) hpart
    next =>
      cases hask
      exact fun part hpart => break_not_mem_fieldsOf List.not_mem_nil hpart

theorem organization_quiet (hserver : breaks source.server = 0) (h : w.Quiet) {asn : Int}
    {found : Option String} {w' : Network τ} (horganization : source.organization asn w = (.ok found, w')) :
    ∀ t ∈ found, breaks t = 0 := by
  rw [organization] at horganization
  split at horganization
  next parts v he =>
    cases horganization
    intro t ht
    obtain ⟨part, hpart, htext⟩ := Option.bind_eq_some_iff.mp ht
    exact breaks_nonEmpty (source.ask_quiet hserver h he part (List.mem_of_getElem? hpart)) htext
  next e v he =>
    split at horganization
    · cases horganization
      simp
    · cases horganization

theorem readOrigin_quiet (hserver : breaks source.server = 0) (h : w.Quiet) {key : String}
    {parts : List (List Char)} (hparts : ∀ part ∈ parts, '\n' ∉ part) {o : Ownership} {w' : Network τ}
    (ho : source.readOrigin key parts w = (.ok o, w')) : o.Quiet := by
  rcases parts with _ | ⟨networks, _ | ⟨block, _ | ⟨country, more⟩⟩⟩
  iterate 3 cases ho
  rw [readOrigin] at ho
  split at ho
  next => cases ho
  next asn hasn =>
    split at ho
    next => cases ho
    next name v hname =>
      cases ho
      have horganization := source.organization_quiet hserver h hname
      intro t ht
      rcases List.mem_append.mp ht with hcountry | hname
      · exact breaks_nonEmpty (hparts country (by simp)) (Option.mem_toList.mp hcountry)
      · exact horganization t (Option.mem_toList.mp hname)

theorem fetch_quiet (hserver : breaks source.server = 0) (h : w.Quiet) {a : Net.Address} {o : Ownership}
    {w' : Network τ} (ho : source.fetch a w = (.ok o, w')) : o.Quiet := by
  rw [fetch] at ho
  split at ho
  next => cases ho
  next name _ =>
    have hl := source.ask_leads name w
    split at ho
    next => cases ho
    next parts v he =>
      rw [he] at hl
      exact source.readOrigin_quiet hserver (h.leads hl) (source.ask_quiet hserver h he) ho

/-- In a quiet session a lookup gives an owner without line breaks, and leaves the session quiet. -/
theorem lookup_quiet (hserver : breaks source.server = 0) {session : Session τ} (h : session.Quiet)
    (a : Net.Address) :
    (∀ o, (source.lookup a session).1 = .ok o → o.Quiet) ∧ (source.lookup a session).2.Quiet := by
  have hnetwork : (source.lookup a session).2.network.Quiet :=
    h.network.leads (source.lookup_leads a session)
  have hremembered := source.remembered_leads a.text session
  rw [lookup] at hnetwork ⊢
  rcases source.remembered_cases a.text session with ⟨entry, hfind, -, hr⟩ | ⟨-, v, -, hr⟩
  · rw [hr] at hnetwork ⊢
    have hentry := h.cache (a.text, entry) (mem_of_lookup hfind)
    refine ⟨?_, h⟩
    rintro o ⟨⟩
    exact hentry
  · rw [hr] at hnetwork hremembered ⊢
    have hrest : ∀ row ∈ session.cache.erase a.text, row.2.info.Quiet :=
      fun row hrow => h.cache row (List.mem_of_mem_filter hrow)
    dsimp only at hnetwork ⊢
    split
    next e w he =>
      rw [he] at hnetwork
      exact ⟨by simp, hnetwork, hrest⟩
    next info w he =>
      rw [he] at hnetwork
      have hinfo : info.Quiet := source.fetch_quiet hserver (h.network.leads hremembered) he
      refine ⟨?_, hnetwork, ?_⟩
      · rintro o ⟨⟩
        exact hinfo
      · rintro row hrow
        rcases List.mem_cons.mp hrow with rfl | hrow
        · exact hinfo
        · exact h.cache row (List.mem_of_mem_filter (List.mem_of_mem_filter hrow))

end Ownership.Source

theorem Session.Quiet.passes {source : Ownership.Source τ} (hserver : breaks source.server = 0)
    {session t : Session τ} (h : session.Quiet) (hp : session.Passes source t) : t.Quiet := by
  induction hp with
  | refl => exact h
  | network _ hl ih => exact ⟨ih.network.leads hl, ih.cache⟩
  | lookup _ a ih => exact (source.lookup_quiet hserver ih a).2

theorem Session.Learned.quiet {source : Ownership.Source τ} (hserver : breaks source.server = 0)
    {session : Session τ} (h : session.Quiet) {o : Ownership} (ho : session.Learned source o) : o.Quiet := by
  obtain ⟨a, t, hp, ho⟩ := ho
  exact (source.lookup_quiet hserver (h.passes hserver hp) a).1 o ho

end Owners

section Reports

variable [Instant τ] {s : Scan τ} {zone : String} {session : Session τ}

theorem Nameserver.Traced.quiet {ns : Nameserver} (h : ns.Traced s.source session) (hquiet : session.Quiet)
    (hresolver : breaks s.settings.resolver = 0) : ∀ t ∈ ns.foreign, breaks t = 0 := by
  intro t ht
  obtain ⟨a, -, ht⟩ := List.mem_flatMap.mp ht
  obtain ⟨o, ho, ht⟩ := List.mem_flatMap.mp ht
  have hentry := mem_of_lookup (Option.mem_toList.mp ho)
  exact (h.owners _ hentry).quiet hresolver hquiet t ht

theorem Finding.Traced.quiet {f : Finding} (h : f.Traced s zone session) (hquiet : session.Quiet)
    (hresolver : breaks s.settings.resolver = 0) (hzone : breaks zone = 0) :
    ∀ t ∈ f.foreign, breaks t = 0 := by
  intro t ht
  cases h with
  | @noNameservers cause h =>
    change t ∈ [s.settings.resolver, cause.message] at ht
    have hcause : breaks cause.message = 0 := by
      rcases h with hmet | rfl
      · exact hmet.quiet hquiet.network hresolver
      · exact breaks_noNameservers (breaks_absolute hzone)
    simp only [List.mem_cons, List.not_mem_nil, or_false] at ht
    rcases ht with rfl | rfl
    · exact hresolver
    · exact hcause
  | @checkFailed type host a ha e he =>
    change t ∈ [e.message] at ht
    rw [List.mem_singleton.mp ht]
    exact he.quiet hquiet.network hresolver
  | _ => cases ht

theorem Report.Traced.quiet {r : Report} (h : r.Traced s zone session) (hquiet : session.Quiet)
    (hresolver : breaks s.settings.resolver = 0) (hzone : breaks zone = 0) :
    ∀ t ∈ r.foreign, breaks t = 0 := by
  intro t ht
  rcases List.mem_cons.mp ht with rfl | ht
  · rw [h.resolver]
    exact hresolver
  · rcases List.mem_append.mp ht with ht | ht
    · obtain ⟨ns, hns, ht⟩ := List.mem_flatMap.mp ht
      exact (h.nameservers ns hns).quiet hquiet hresolver t ht
    · obtain ⟨f, hf, ht⟩ := List.mem_flatMap.mp ht
      exact (h.findings f hf).quiet hquiet hresolver hzone t ht

end Reports

/-- The audit of an accepted plain zone ends in a report whose page is made of its lines. The page shows
one more line for each line break in a foreign text, and so shows just these lines when there is none;
which is so whenever no server, failure or cached owner says a break and the resolver's text has none. -/
theorem auditZone_page {settings : Settings Float} {target zone : String} {session : Session Float}
    {r : Report} (hz : Zone.accept target = .ok zone) (hplain : Zone.Plain zone)
    (hr : (auditZone settings zone session).1 = .ok r) (about : Json) :
    ∃ response page, Response.build zone [("delegation", .report r)] about = .ok response ∧
      Page.text response.toJson = .ok page ∧
      page = String.join (r.sheet.map (· ++ "\n")) ∧
      r.sheet.length =
        3 + r.nameservers.length + (if r.findings = [] then 1 else 2 * r.findings.length) ∧
      (linesOf page).length = r.sheet.length + breaksIn r.foreign ∧
      (linesOf page = r.sheet ↔ ∀ t ∈ r.foreign, '\n' ∉ t.toList) ∧
      (session.Quiet → '\n' ∉ settings.resolver.toList → linesOf page = r.sheet) := by
  have hreturned : r.Returned Float := ⟨settings, zone, session, hr⟩
  have hunbroken := hplain.unbroken
  obtain ⟨hname, hparent⟩ := auditZone_names hr
  rw [hplain.normalize_eq hz] at hname hparent
  have htraced : r.Traced (Scan.start settings session.network.clock) zone session := by
    obtain ⟨p, millis, hs, rfl⟩ := survey_of_report hr
    have hsurvey := (Scan.start settings session.network.clock).survey_traced (Zone.normalize zone) session
    rw [hs, hplain.normalize_eq hz] at hsurvey
    exact hsurvey.finalize.observe _
  have hoverall : breaks r.overall.text = 0 := by
    rw [hreturned.overall, Overall.ofSeverities]
    repeat' split
    all_goals rfl
  have hup : breaks r.parent = 0 := hparent ▸ breaks_parentOf (breaks_absolute hunbroken)
  have hsheet : breaksIn r.sheet = breaksIn r.foreign :=
    htraced.breaks_sheet hreturned.made hunbroken hup hoverall
  have hforeign : linesOf (String.join (r.sheet.map (· ++ "\n"))) = r.sheet ↔
      ∀ t ∈ r.foreign, breaks t = 0 := by
    rw [linesOf_join_eq_iff, hsheet, breaksIn_eq_zero_iff]
  obtain ⟨response, hbuild, hpage⟩ := Response.build_sheet hreturned.made about
  rw [hname] at hbuild
  refine ⟨response, _, hbuild, hpage, rfl, r.length_sheet, ?_, ?_, ?_⟩
  · rw [length_linesOf_join, hsheet]
  · simp only [← breaks_eq_zero_iff]
    exact hforeign
  · intro hquiet hresolver
    exact hforeign.mpr (htraced.quiet hquiet (breaks_eq_zero_iff.mpr hresolver) hunbroken)

/-- A country with a line break in it, and a failure whose text is made like a finding. -/
def forging : Network Float :=
  let a : Name := .single 97
  .start 0 1 [
    .always none "example.com." "NS" (.ok ⟨.noError, [⟨a, 60, [.ns a]⟩]⟩),
    .always none "a." "A" (.ok ⟨.noError, [⟨a, 60, [.a (.ofNat 0xC0000201)]⟩]⟩),
    .always none "1.2.0.192.origin.asn.cymru.com." "TXT"
      (.ok ⟨.noError, [⟨a, 60, [.txt [[54, 52, 52, 57, 54, 124, 124, 78, 10, 76]]]⟩]⟩),
    .always none "example.com." "SOA" (.error (.plain .os "x\n- [high] FORGED"))] []

/-- Two breaks make two more lines; in a quiet session the page shows just its lines. -/
theorem auditZone_page_forged :
    Zone.accept "example.com" = .ok "example.com" ∧ Zone.Plain "example.com" ∧
    (∃ r response page, (auditZone endless "example.com" ⟨forging, []⟩).1 = .ok r ∧
      Response.build "example.com" [("delegation", .report r)] .null = .ok response ∧
      Page.text response.toJson = .ok page ∧ r.nameservers.length = 1 ∧ r.findings.length = 2 ∧
      r.sheet.length = 8 ∧ (linesOf page).length = 10 ∧ linesOf page ≠ r.sheet) ∧
    ∃ r response page, (auditZone endless "example.com" ⟨twoAddresses [], []⟩).1 = .ok r ∧
      Response.build "example.com" [("delegation", .report r)] .null = .ok response ∧
      Page.text response.toJson = .ok page ∧ linesOf page = r.sheet := by
  have hz : Zone.accept "example.com" = .ok "example.com" := by decide +kernel
  have hplain : Zone.Plain "example.com" := by
    have hall : "example.com".toList.all (fun c => c.isAlphanum || c == '.') = true := by decide +kernel
    intro c hc
    have hsign := List.all_eq_true.mp hall c hc
    rw [Bool.or_eq_true, beq_iff_eq] at hsign
    exact hsign.imp_right fun hdot => .inr (.inr hdot)
  refine ⟨hz, hplain, ?_, ?_⟩
  · have hforged : (auditZone endless "example.com" ⟨forging, []⟩).1.toOption.map (fun r =>
        (r.nameservers.length, r.findings.length, breaksIn r.foreign)) = some (1, 2, 2) := by
      decide +kernel
    obtain ⟨r, hr, hcounts⟩ := exists_of_map_toOption hforged
    obtain ⟨hservers, hfindings, hforeign⟩ : r.nameservers.length = 1 ∧ r.findings.length = 2 ∧
        breaksIn r.foreign = 2 := by simpa using hcounts
    obtain ⟨response, page, hbuild, hpage, -, hsheet, hlines, -, -⟩ := auditZone_page hz hplain hr .null
    have hsome : r.findings ≠ [] := by
      intro hnone
      simp [hnone] at hfindings
    rw [hservers, hfindings, if_neg hsome] at hsheet
    rw [hsheet, hforeign] at hlines
    refine ⟨r, response, page, hr, hbuild, hpage, hservers, hfindings, hsheet, hlines, ?_⟩
    intro hsame
    rw [hsame, hsheet] at hlines
    exact absurd hlines (by decide)
  · have hquiet : Session.Quiet ⟨twoAddresses [], []⟩ := by
      refine ⟨Network.forall_start ?_, by simp⟩
      simp [Rule.always, Quietly, Answer.Quiet, recordsOf, RecordSet.records, Record.Quiet, forall_and]
    have hfound : (auditZone endless "example.com" ⟨twoAddresses [], []⟩).1.toOption.map (fun r =>
        r.nameservers.length) = some 1 := by
      decide +kernel
    obtain ⟨r, hr, -⟩ := exists_of_map_toOption hfound
    obtain ⟨response, page, hbuild, hpage, -, -, -, -, hlines⟩ := auditZone_page hz hplain hr .null
    exact ⟨r, response, page, hr, hbuild, hpage, hlines hquiet (by decide +kernel)⟩

end DelegationAudit
