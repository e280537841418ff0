import DelegationAudit.Proofs.AddressText
import DelegationAudit.Proofs.Replies

namespace DelegationAudit

variable {τ : Type} [Instant τ]

namespace Ownership.Source

/-- Servers that keep to their replies, and a cache that agrees with them. -/
structure Coherent (source : Source τ) (s : Session τ) : Prop where
  steady : s.network.Steady
  agrees : ∀ (a : Net.Address) (entry : Entry τ),
    s.cache.find? a.text = some entry → (source.fetch a s.network).1 = .ok entry.info

variable {source : Source τ} {s : Session τ}

theorem Coherent.nothing {w : Network τ} (h : w.Steady) : source.Coherent ⟨w, []⟩ where
  steady := h
  agrees _ _ he := nomatch he

theorem fetch_leads_eq (source : Source τ) (hs : s.network.Steady) {w : Network τ}
    (hl : s.network.Leads w) (a : Net.Address) :
    (source.fetch a w).1 = (source.fetch a s.network).1 := by
  have h : w.Alike none s.network := (Network.Alike.refl hs).leads hl .refl
  exact source.fetch_alike h (by simp) a

theorem Coherent.leads (h : source.Coherent s) {w : Network τ} (hl : s.network.Leads w) :
    source.Coherent ⟨w, s.cache⟩ where
  steady := h.steady.leads hl
  agrees a entry he := by
    rw [source.fetch_leads_eq h.steady hl]
    exact h.agrees a entry he

/-- An entry that has just been learned. Only this address is written as its key. -/
theorem Coherent.store (h : source.Coherent s) {a : Net.Address} {info : Ownership}
    (hf : (source.fetch a s.network).1 = .ok info) (now : τ) :
    source.Coherent ⟨s.network, s.cache.store a.text ⟨now, info⟩⟩ where
  steady := h.steady
  agrees b entry he := by
    by_cases hb : b.text = a.text
    · have hba : b = a := Net.Address.text_inj hb
      dsimp only at he
      rw [hb, Cache.find?_store] at he
      cases he
      rw [hba]
      exact hf
    · dsimp only at he
      rw [Cache.find?_store_ne _ hb] at he
      exact h.agrees b entry he

theorem Coherent.erase (h : source.Coherent s) (key : String) :
    source.Coherent ⟨s.network, s.cache.erase key⟩ where
  steady := h.steady
  agrees b entry he := by
    by_cases hb : b.text = key
    · dsimp only at he
      rw [hb, Cache.find?_erase] at he
      cases he
    · dsimp only at he
      rw [Cache.find?_erase_ne _ hb] at he
      exact h.agrees b entry he

theorem remembered_coherent (h : source.Coherent s) (key : String) :
    source.Coherent (source.remembered key s).2 := by
  rw [remembered]
  split
  · exact h
  · split
    · exact (h.erase key).leads (.note _ _ _ .refl)
    · exact h

theorem lookup_eq_fetch (h : source.Coherent s) (a : Net.Address) :
    (source.lookup a s).1 = (source.fetch a s.network).1 := by
  have hl := source.remembered_leads a.text s
  rw [lookup]
  split
  next info s' he =>
    rw [remembered] at he
    split at he
    next => cases he
    next entry hfind =>
      split at he
      · cases he
      · cases he
        exact (h.agrees a entry hfind).symm
  next s' he =>
    rw [he] at hl
    have hf : (source.fetch a s'.network).1 = (source.fetch a s.network).1 :=
      source.fetch_leads_eq h.steady hl a
    split
    next e w hw => rw [← hf, hw]
    next info w hw => rw [← hf, hw]

theorem lookup_coherent (h : source.Coherent s) (a : Net.Address) :
    source.Coherent (source.lookup a s).2 := by
  have hr := remembered_coherent h a.text
  rw [lookup]
  split
  next info s' he => rwa [he] at hr
  next s' he =>
    rw [he] at hr
    have hl := source.fetch_leads a s'.network
    split
    next e w hw =>
      rw [hw] at hl
      exact hr.leads hl
    next info w hw =>
      rw [hw] at hl
      have hf := source.fetch_leads_eq hr.steady hl a
      rw [hw] at hf
      exact (hr.leads hl).store hf w.clock

end Ownership.Source

/-- The states that a session comes to: messages are sent and time passes, and owners are looked up. -/
inductive Session.Passes (source : Ownership.Source τ) (s : Session τ) : Session τ → Prop
  | refl : Passes source s s
  | network {t : Session τ} {w : Network τ} (h : Passes source s t) (hl : t.network.Leads w) :
      Passes source s ⟨w, t.cache⟩
  | lookup {t : Session τ} (h : Passes source s t) (a : Net.Address) :
      Passes source s (source.lookup a t).2

namespace Session.Passes

variable {source : Ownership.Source τ} {s t u : Session τ}

theorem trans (h : s.Passes source t) (h' : t.Passes source u) : s.Passes source u := by
  induction h' with
  | refl => exact h
  | network _ hl ih => exact ih.network hl
  | lookup _ a ih => exact ih.lookup a

theorem of_leads (hl : s.network.Leads t.network) (hc : t.cache = s.cache) : s.Passes source t := by
  have h : s.Passes source ⟨t.network, s.cache⟩ := Passes.refl.network hl
  rwa [← hc] at h

theorem leads (h : s.Passes source t) : s.network.Leads t.network := by
  induction h with
  | refl => exact .refl
  | network _ hl ih => exact ih.trans hl
  | lookup _ a ih => exact ih.trans (source.lookup_leads a _)

theorem coherent (h : s.Passes source t) (hs : source.Coherent s) : source.Coherent t := by
  induction h with
  | refl => exact hs
  | network _ hl ih => exact ih.leads hl
  | lookup _ a ih => exact Ownership.Source.lookup_coherent ih a

theorem lookup_eq (h : s.Passes source t) (hs : source.Coherent s) (a : Net.Address) :
    (source.lookup a t).1 = (source.lookup a s).1 := by
  rw [Ownership.Source.lookup_eq_fetch (h.coherent hs), Ownership.Source.lookup_eq_fetch hs,
    source.fetch_leads_eq hs.steady h.leads]

end Session.Passes

namespace Scan

variable {s : Scan τ}

theorem owners_passes (host : String) (addresses : List Net.Address)
    (known : List (String × Ownership)) (session : Session τ) :
    session.Passes s.source (s.owners host addresses known session).2 := by
  induction addresses generalizing known session with
  | nil => exact .refl
  | cons a rest ih =>
    have hl : session.Passes s.source (s.source.lookup a session).2 := Session.Passes.refl.lookup a
    rw [owners]
    split
    next o session' he =>
      rw [he] at hl
      exact hl.trans (ih _ session')
    next e session' he =>
      rw [he] at hl
      split
      · exact (hl.network (.note _ _ _ .refl)).trans (ih known (noteMissing host a e session'))
      · exact hl

theorem skip_passes (step : Step) (p : Progress τ) :
    p.session.Passes s.source (s.skip step p).session := by
  rw [skip]
  split
  · exact .refl
  · exact Session.Passes.refl.network (.note _ _ _ .refl)

theorem enrichOne_passes (ns : Nameserver) (p : Progress τ) :
    p.session.Passes s.source (s.enrichOne ns p).2.session := by
  have ho := owners_passes ns.name ns.addresses [] p.session (s := s)
  rw [enrichOne]
  split
  · split
    next e session he => rwa [he] at ho
    next known session he => rwa [he] at ho
  · exact skip_passes .enrichment p.looked

theorem enrichOne_coherent {p : Progress τ} (h : s.source.Coherent p.session) (ns : Nameserver) :
    s.source.Coherent (s.enrichOne ns p).2.session := (enrichOne_passes ns p).coherent h

theorem enrichAll_passes (nameservers : List Nameserver) (p : Progress τ) :
    p.session.Passes s.source (s.enrichAll nameservers p).2.session := by
  induction nameservers generalizing p with
  | nil => exact .refl
  | cons ns rest ih =>
    have ho := enrichOne_passes ns p (s := s)
    rw [enrichAll]
    split
    next e q he => rwa [he] at ho
    next ns' q he =>
      rw [he] at ho
      have hr := ho.trans (ih q)
      split
      next e r hq => rwa [hq] at hr
      next more r hq => rwa [hq] at hr

theorem enrich_passes (nameservers : List Nameserver) (p : Progress τ) :
    p.session.Passes s.source (s.enrich nameservers p).2.session := by
  rw [enrich]
  split
  · exact enrichAll_passes nameservers p
  · exact .refl

omit [Instant τ] in
theorem record_cache (v : Verdict) (p : Progress τ) : (record v p).session.cache = p.session.cache := by
  cases hn : v.note <;> cases hf : v.finding <;> simp [record, hn, hf, Progress.note, Progress.add]

theorem check_cache (name : String) (type : Dns.RecordType) (host address : String) (p : Progress τ) :
    (s.check name type host address p).2.session.cache = p.session.cache := by
  rw [check]
  split
  · rfl
  · exact record_cache _ _

theorem probeOne_cache (name : String) (delegated : List String) (host : String)
    (address : Net.Address) (h : Harvest) (p : Progress τ) :
    (s.probeOne name delegated host address h p).2.session.cache = p.session.cache := by
  have hsoa := check_cache name .soa host address.text p (s := s)
  rw [probeOne]
  split
  next e q he => rwa [he] at hsoa
  next soa soaFailed q he =>
    rw [he] at hsoa
    have hns := check_cache name .ns host address.text q (s := s)
    split
    next e r hr => rw [hr] at hns; exact hns.trans hsoa
    next served nsFailed r hr =>
      rw [hr] at hns
      dsimp only
      split <;> exact hns.trans hsoa

theorem probeAll_cache (name : String) (delegated : List String)
    (targets : List (String × Net.Address)) (h : Harvest) (p : Progress τ) :
    (s.probeAll name delegated targets h p).2.session.cache = p.session.cache := by
  induction targets generalizing h p with
  | nil => rfl
  | cons target rest ih =>
    obtain ⟨host, a⟩ := target
    rw [probeAll]
    split
    next =>
      have ho := probeOne_cache name delegated host a h p.looked (s := s)
      split
      next e q he => rwa [he] at ho
      next h' q he =>
        rw [he] at ho
        exact (ih h' q).trans ho
    next =>
      rw [skip]
      split <;> rfl

theorem probe_passes (name : String) (p : Progress τ) :
    p.session.Passes s.source (s.probe name p).2.session := by
  refine .of_leads (s.probe_leads name p) ?_
  have ha := probeAll_cache name (delegation p.report.nameservers) (targets p.report.nameservers)
    ⟨[], []⟩ p (s := s)
  rw [probe]
  split
  next e q he => rwa [he] at ha
  next harvest q he => rwa [he] at ha

theorem examine_passes (name : String) (nameservers : List Nameserver) (p : Progress τ) :
    p.session.Passes s.source (s.examine name nameservers p).2.session := by
  have he := enrich_passes nameservers p (s := s)
  rw [examine]
  split
  next e q hq => rwa [hq] at he
  next enriched q hq =>
    rw [hq] at he
    split
    · exact he.trans (probe_passes name (inspect enriched q))
    · exact he

theorem survey_passes (zone : String) (session : Session τ) :
    session.Passes s.source (s.survey zone session).2.session := by
  have hd := discover_leads s.client s.settings.resolver (Dns.absolute zone) session.network
  unfold survey
  split
  next e w he =>
    rw [he] at hd
    dsimp only
    split
    · exact (Session.Passes.refl.network hd).network (.note _ _ _ .refl)
    · exact Session.Passes.refl.network hd
  next nameservers w he =>
    rw [he] at hd
    exact (Session.Passes.refl.network hd).trans
      (examine_passes _ _ (s.begin zone { session with network := w }))

end Scan

/-- Where the owners of addresses are asked for, under these settings. -/
def Settings.source (settings : Settings τ) : Ownership.Source τ :=
  ⟨⟨settings.timeout, settings.port⟩, settings.resolver, settings.lifetime⟩

theorem auditZone_passes (settings : Settings τ) (target : String) (session : Session τ) :
    session.Passes settings.source (auditZone settings target session).2 := by
  have hs := Scan.survey_passes (s := Scan.start settings session.network.clock)
    (Zone.normalize target) session
  unfold auditZone
  dsimp only
  split
  next e p he => rwa [he] at hs
  next p he =>
    rw [he] at hs
    rwa [Scan.finish_session]

/-- What one tool lives through: audits, and the time between them. -/
inductive Event (τ : Type)
  | audit (target : String)
  | wait (span : τ)

namespace Session

def meet (settings : Settings τ) (session : Session τ) : Event τ → Session τ
  | .audit target => (auditZone settings target session).2
  | .wait span => { session with network := session.network.advance span }

def live (settings : Settings τ) (events : List (Event τ)) (session : Session τ) : Session τ :=
  events.foldl (meet settings) session

theorem live_cons (settings : Settings τ) (e : Event τ) (rest : List (Event τ)) (session : Session τ) :
    session.live settings (e :: rest) = (session.meet settings e).live settings rest := rfl

theorem meet_passes (settings : Settings τ) (session : Session τ) (e : Event τ) :
    session.Passes settings.source (session.meet settings e) := by
  cases e with
  | audit target => exact auditZone_passes settings target session
  | wait span => exact Passes.refl.network (.wait span .refl)

theorem live_passes (settings : Settings τ) (events : List (Event τ)) (session : Session τ) :
    session.Passes settings.source (session.live settings events) := by
  induction events generalizing session with
  | nil => exact .refl
  | cons e rest ih =>
    rw [live_cons]
    exact (session.meet_passes settings e).trans (ih (session.meet settings e))

theorem live_leads (settings : Settings τ) (events : List (Event τ)) (session : Session τ) :
    session.network.Leads (session.live settings events).network :=
  (live_passes settings events session).leads

theorem live_coherent {settings : Settings τ} {session : Session τ}
    (h : settings.source.Coherent session) (events : List (Event τ)) :
    settings.source.Coherent (session.live settings events) :=
  (live_passes settings events session).coherent h

end Session

end DelegationAudit
