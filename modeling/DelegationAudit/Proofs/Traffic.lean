import DelegationAudit.Audit.Scan

namespace DelegationAudit

variable {τ : Type} [Instant τ]

namespace Network

/-- What the servers would say to a call now. -/
def answer (call : Call τ) (w : Network τ) : Except Failure Answer := (w.exchange call).1

/-- Messages, lines of the log and time that passes lead from one state of a network to the other. -/
inductive Leads (w : Network τ) : Network τ → Prop
  | refl : Leads w w
  | exchange {v : Network τ} (call : Call τ) (h : Leads w v) : Leads w (v.exchange call).2
  | note {v : Network τ} (level : Level) (source message : String) (h : Leads w v) :
      Leads w (v.note level source message)
  | wait {v : Network τ} (span : τ) (h : Leads w v) : Leads w (v.advance span)

theorem Leads.trans {u v w : Network τ} (huv : u.Leads v) (hvw : v.Leads w) : u.Leads w := by
  induction hvw with
  | refl => exact huv
  | exchange call _ ih => exact ih.exchange call
  | note level source message _ ih => exact ih.note level source message
  | wait span _ ih => exact ih.wait span

theorem exchange_readings (call : Call τ) (w : Network τ) :
    (w.exchange call).2.readings = w.readings := by
  rw [exchange]
  dsimp only
  split <;> rfl

theorem Leads.readings {v w : Network τ} (h : w.Leads v) : v.readings = w.readings := by
  induction h with
  | refl => rfl
  | exchange call _ ih => rw [exchange_readings, ih]
  | note level source message _ ih => exact ih
  | wait span _ ih => exact ih

/-- Replies depend on the server and the question only: nothing sent before changes one. -/
def Steady (w : Network τ) : Prop := ∀ v, w.Leads v → ∀ call, v.answer call = w.answer call

/-- Whatever goes wrong in an exchange is a failure of the exchange as such. -/
def Orderly (w : Network τ) : Prop :=
  ∀ v, w.Leads v → ∀ call e, v.answer call = .error e → e.isAbsorbed = true

theorem Steady.leads {v w : Network τ} (h : w.Steady) (hl : w.Leads v) : v.Steady := by
  intro u hu call
  rw [h u (hl.trans hu), h v hl]

theorem Orderly.leads {v w : Network τ} (h : w.Orderly) (hl : w.Leads v) : v.Orderly :=
  fun u hu => h u (hl.trans hu)

end Network

namespace Client

theorem exchange_leads_ask (c : Client τ) {name : String} {type : Dns.RecordType} {secure : Bool}
    {query : Dns.Query} (hq : buildQuery name type secure = .ok query) (server : String)
    (w : Network τ) :
    (w.exchange ⟨server, c.port, c.timeout, query⟩).2.Leads (c.ask name type server secure w).2 := by
  rw [ask, hq]
  dsimp only
  split
  next e v he =>
    rw [he]
    split
    · exact .note _ _ _ .refl
    · exact .refl
  next answer v he =>
    rw [he]
    split <;> exact .refl

theorem ask_leads (c : Client τ) (name : String) (type : Dns.RecordType) (server : String)
    (secure : Bool) (w : Network τ) : w.Leads (c.ask name type server secure w).2 := by
  cases hq : buildQuery name type secure with
  | error e =>
    rw [ask, hq]
    exact .refl
  | ok query =>
    have hx : w.Leads (w.exchange ⟨server, c.port, c.timeout, query⟩).2 := .exchange _ .refl
    exact hx.trans (c.exchange_leads_ask hq server w)

theorem ask_leads_resolve (c : Client τ) (name : String) (type : Dns.RecordType) (server : String)
    (secure : Bool) (w : Network τ) :
    (c.ask name type server secure w).2.Leads (c.resolve name type server secure w).2 := by
  rw [resolve]
  split
  next e v he => rw [he]; exact .refl
  next outcome v he =>
    rw [he]
    split <;> exact .refl

theorem resolve_leads (c : Client τ) (name : String) (type : Dns.RecordType) (server : String)
    (secure : Bool) (w : Network τ) : w.Leads (c.resolve name type server secure w).2 :=
  (c.ask_leads name type server secure w).trans (c.ask_leads_resolve name type server secure w)

end Client

namespace Discovery

theorem addresses_leads (client : Client τ) (server host : String) (type : Dns.RecordType)
    (w : Network τ) : w.Leads (addresses client server host type w).2 := by
  have hr := client.resolve_leads host type server false w
  rw [addresses]
  split
  next records t v he => rwa [he] at hr
  next e v he =>
    rw [he] at hr
    split
    · exact .note _ _ _ hr
    · exact hr

theorem nameserver_leads (client : Client τ) (server host : String) (w : Network τ) :
    w.Leads (nameserver client server host w).2 := by
  have ha := addresses_leads client server host .a w
  rw [nameserver]
  split
  next e v he => rwa [he] at ha
  next v4 v he =>
    rw [he] at ha
    have hb := addresses_leads client server host .aaaa v
    split
    next e u hu => rw [hu] at hb; exact ha.trans hb
    next v6 u hu => rw [hu] at hb; exact ha.trans hb

theorem nameservers_leads (client : Client τ) (server : String) (hosts : List String)
    (w : Network τ) : w.Leads (nameservers client server hosts w).2 := by
  induction hosts generalizing w with
  | nil => exact .refl
  | cons host rest ih =>
    have hn := nameserver_leads client server host w
    rw [nameservers]
    split
    next e v he => rwa [he] at hn
    next ns v he =>
      rw [he] at hn
      have hr := ih v
      split
      next e u hu => rw [hu] at hr; exact hn.trans hr
      next more u hu => rw [hu] at hr; exact hn.trans hr

end Discovery

theorem resolve_leads_discover (client : Client τ) (server domain : String) (w : Network τ) :
    (client.resolve domain .ns server false w).2.Leads (discover client server domain w).2 := by
  rw [discover]
  split
  next e v he => rw [he]; exact .refl
  next records t v he =>
    rw [he]
    have hn := Discovery.nameservers_leads client server (Dns.targetsOf records) v
    split
    next e u hu => rwa [hu] at hn
    next u hu => rwa [hu] at hn
    next ns more u hu => rwa [hu] at hn

theorem discover_leads (client : Client τ) (server domain : String) (w : Network τ) :
    w.Leads (discover client server domain w).2 :=
  (client.resolve_leads domain .ns server false w).trans (resolve_leads_discover client server domain w)

namespace Ownership.Source

theorem ask_leads (source : Source τ) (name : String) (w : Network τ) :
    w.Leads (source.ask name w).2 := by
  have hr := source.client.resolve_leads name .txt source.server false w
  rw [ask]
  split
  next e v he => rwa [he] at hr
  next records t v he =>
    rw [he] at hr
    split <;> exact hr

theorem organization_leads (source : Source τ) (asn : Int) (w : Network τ) :
    w.Leads (source.organization asn w).2 := by
  have ha := source.ask_leads (networkName asn) w
  rw [organization]
  split
  next parts v he => rwa [he] at ha
  next e v he =>
    rw [he] at ha
    split
    · exact .note _ _ _ ha
    · exact ha

theorem readOrigin_leads (source : Source τ) (key : String) (parts : List (List Char))
    (w : Network τ) : w.Leads (source.readOrigin key parts w).2 := by
  unfold readOrigin
  split
  next networks block country more =>
    split
    · exact .refl
    next asn _ =>
      have ho := source.organization_leads asn w
      split
      next e v he => rwa [he] at ho
      next name v he => rwa [he] at ho
  next => exact .refl

theorem fetch_leads (source : Source τ) (address : Net.Address) (w : Network τ) :
    w.Leads (source.fetch address w).2 := by
  rw [fetch]
  split
  next => exact .refl
  next name _ =>
    have ha := source.ask_leads name w
    split
    next e v he => rwa [he] at ha
    next parts v he =>
      rw [he] at ha
      exact ha.trans (source.readOrigin_leads _ _ v)

theorem remembered_leads (source : Source τ) (key : String) (s : Session τ) :
    s.network.Leads (source.remembered key s).2.network := by
  rw [remembered]
  split
  · exact .refl
  · split
    · exact .note _ _ _ .refl
    · exact .refl

theorem lookup_leads (source : Source τ) (address : Net.Address) (s : Session τ) :
    s.network.Leads (source.lookup address s).2.network := by
  have hm := source.remembered_leads address.text s
  rw [lookup]
  split
  next info s' he => rwa [he] at hm
  next s' he =>
    rw [he] at hm
    have hf := source.fetch_leads address s'.network
    split
    next e v hv => rw [hv] at hf; exact hm.trans hf
    next info v hv => rw [hv] at hf; exact hm.trans hf

end Ownership.Source

namespace Scan

theorem owners_leads (s : Scan τ) (host : String) (addresses : List Net.Address)
    (known : List (String × Ownership)) (session : Session τ) :
    session.network.Leads (s.owners host addresses known session).2.network := by
  induction addresses generalizing known session with
  | nil => exact .refl
  | cons a rest ih =>
    have hl := s.source.lookup_leads a session
    rw [owners]
    split
    next o v he =>
      rw [he] at hl
      exact hl.trans (ih _ v)
    next e v he =>
      rw [he] at hl
      split
      · exact (Network.Leads.note _ _ _ hl).trans (ih known (noteMissing host a e v))
      · exact hl

theorem skip_leads (s : Scan τ) (step : Step) (p : Progress τ) :
    p.session.network.Leads (s.skip step p).session.network := by
  rw [skip]
  split
  · exact .refl
  · exact .note _ _ _ .refl

theorem enrichOne_leads (s : Scan τ) (ns : Nameserver) (p : Progress τ) :
    p.session.network.Leads (s.enrichOne ns p).2.session.network := by
  rw [enrichOne]
  split
  next =>
    have ho := s.owners_leads ns.name ns.addresses [] p.session
    split
    next e v he => rwa [he] at ho
    next known v he => rwa [he] at ho
  next => exact s.skip_leads .enrichment p.looked

theorem enrichAll_leads (s : Scan τ) (nameservers : List Nameserver) (p : Progress τ) :
    p.session.network.Leads (s.enrichAll nameservers p).2.session.network := by
  induction nameservers generalizing p with
  | nil => exact .refl
  | cons ns rest ih =>
    have ho := s.enrichOne_leads ns p
    rw [enrichAll]
    split
    next e q he => rwa [he] at ho
    next ns' q he =>
      rw [he] at ho
      have hr := ih q
      split
      next e r hr' => rw [hr'] at hr; exact ho.trans hr
      next more r hr' => rw [hr'] at hr; exact ho.trans hr

theorem question_leads (s : Scan τ) (name : String) (type : Dns.RecordType) (address : String)
    (w : Network τ) : w.Leads (s.question name type address w).2 := by
  have hr := (s.client.withPort authoritativePort).resolve_leads name type address false w
  rw [question]
  split
  next records t v he => rwa [he] at hr
  next e v he =>
    rw [he] at hr
    split <;> exact hr

omit [Instant τ] in
@[simp] theorem record_network (v : Verdict) (p : Progress τ) :
    (record v p).session.network =
      match v.note with
      | none => p.session.network
      | some message => p.session.network.note .debug "nsaudit.classify" message := by
  cases hn : v.note <;> cases hf : v.finding <;> simp [record, hn, hf, Progress.note, Progress.add]

theorem record_leads (v : Verdict) (p : Progress τ) :
    p.session.network.Leads (record v p).session.network := by
  rw [record_network]
  split
  · exact .refl
  · exact .note _ _ _ .refl

theorem check_leads (s : Scan τ) (name : String) (type : Dns.RecordType) (host address : String)
    (p : Progress τ) :
    p.session.network.Leads (s.check name type host address p).2.session.network := by
  have hq := s.question_leads name type address p.session.network
  rw [check]
  split
  next e v he => rwa [he] at hq
  next records error v he =>
    rw [he] at hq
    apply hq.trans
    dsimp only
    exact record_leads _ { p with session := { p.session with network := v } }

theorem probeOne_leads (s : Scan τ) (name : String) (delegated : List String) (host : String)
    (address : Net.Address) (h : Harvest) (p : Progress τ) :
    p.session.network.Leads (s.probeOne name delegated host address h p).2.session.network := by
  have hsoa := s.check_leads name .soa host address.text p
  rw [probeOne]
  split
  next e q he => rwa [he] at hsoa
  next soa soaFailed q he =>
    rw [he] at hsoa
    have hns := s.check_leads name .ns host address.text q
    split
    next e r hr => rw [hr] at hns; exact hsoa.trans hns
    next served nsFailed r hr =>
      rw [hr] at hns
      dsimp only
      split <;> exact hsoa.trans hns

theorem probeAll_leads (s : Scan τ) (name : String) (delegated : List String)
    (targets : List (String × Net.Address)) (h : Harvest) (p : Progress τ) :
    p.session.network.Leads (s.probeAll name delegated targets h p).2.session.network := by
  induction targets generalizing h p with
  | nil => exact .refl
  | cons target rest ih =>
    obtain ⟨host, a⟩ := target
    rw [probeAll]
    split
    next =>
      have ho := s.probeOne_leads name delegated host a h p.looked
      split
      next e q he => rwa [he] at ho
      next h' q he =>
        rw [he] at ho
        exact ho.trans (ih h' q)
    next => exact s.skip_leads .probes p.looked

theorem probe_leads (s : Scan τ) (name : String) (p : Progress τ) :
    p.session.network.Leads (s.probe name p).2.session.network := by
  have ha := s.probeAll_leads name (delegation p.report.nameservers)
    (targets p.report.nameservers) ⟨[], []⟩ p
  rw [probe]
  split
  next e q he => rwa [he] at ha
  next h q he => rwa [he] at ha

theorem enrich_leads (s : Scan τ) (nameservers : List Nameserver) (p : Progress τ) :
    p.session.network.Leads (s.enrich nameservers p).2.session.network := by
  rw [enrich]
  split
  · exact s.enrichAll_leads nameservers p
  · exact .refl

theorem examine_leads (s : Scan τ) (name : String) (nameservers : List Nameserver)
    (p : Progress τ) :
    p.session.network.Leads (s.examine name nameservers p).2.session.network := by
  have he := s.enrich_leads nameservers p
  rw [examine]
  split
  next e q hq => rwa [hq] at he
  next enriched q hq =>
    rw [hq] at he
    split
    · exact he.trans (s.probe_leads name (inspect enriched q))
    · exact he

theorem discover_leads_survey (s : Scan τ) (zone : String) (session : Session τ) :
    (discover s.client s.settings.resolver (Dns.absolute zone) session.network).2.Leads
      (s.survey zone session).2.session.network := by
  unfold survey
  split
  next e v he =>
    rw [he]
    dsimp only
    split
    · exact .note _ _ _ .refl
    · exact .refl
  next nameservers v he =>
    rw [he]
    exact s.examine_leads (Dns.absolute zone) nameservers (s.begin zone { session with network := v })

@[simp] theorem finish_session (started : τ) (p : Progress τ) :
    (finish started p).2 = p.session := rfl

end Scan

end DelegationAudit
