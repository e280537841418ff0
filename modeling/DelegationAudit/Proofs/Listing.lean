import DelegationAudit.Proofs.Upshot
import Mathlib.Data.Set.List

namespace DelegationAudit

open Dns

/-- Records of a type whose data are all of one form. -/
theorem Dns.exists_data_eq {α : Type} {form : α → Rdata} {type : RecordType}
    (hform : ∀ d : Rdata, d.type = type → ∃ x, d = form x) {records : List Record}
    (h : ∀ r ∈ records, r.type = type) :
    ∃ xs : List α, records.map Record.data = xs.map form := by
  have hmem : records.map Record.data ∈ Set.range (List.map form) := by
    rw [Set.range_list_map]
    intro d hd
    obtain ⟨r, hr, rfl⟩ := List.mem_map.mp hd
    obtain ⟨x, hx⟩ := hform r.data (h r hr)
    exact ⟨x, hx.symm⟩
  obtain ⟨xs, hxs⟩ := hmem
  exact ⟨xs, hxs.symm⟩

theorem Dns.filterMap_of_data {α β : Type} {form : α → Rdata} {f : Record → Option β} {g : α → β}
    (hf : ∀ r x, r.data = form x → f r = some (g x)) {records : List Record} {xs : List α}
    (h : records.map Record.data = xs.map form) : records.filterMap f = xs.map g := by
  induction records generalizing xs with
  | nil =>
    obtain rfl := List.map_eq_nil_iff.mp h.symm
    rfl
  | cons r records ih =>
    cases xs with
    | nil => cases h
    | cons x xs =>
      rw [List.map_cons, List.map_cons, List.cons.injEq] at h
      rw [List.filterMap_cons_some (hf r x h.1), ih h.2, List.map_cons]

variable {τ : Type} [Instant τ]

namespace Client

/-- The messages of a plain question: one, or none if its name is none. -/
def messages (c : Client τ) (server text : String) (type : RecordType) : List (Call τ) :=
  match Name.read text with
  | .ok name => [c.message server name type]
  | .error _ => []

/-- The data that a question brings: all that the reply holds of its type, in the order of the reply,
and none exactly when the question fails. -/
structure Gives (c : Client τ) (server text : String) (type : RecordType) (w : Network τ)
    (data : List Rdata) : Prop where
  reply : ∀ name answer, Name.read text = .ok name →
    w.answer (c.message server name type) = .ok answer → answer.code = .noError →
      data = (answer.holding type).map Record.data
  fails : data = [] ↔ ∃ e, (c.resolve text type server false w).1 = .error e

variable {c : Client τ} {server text : String} {type : RecordType} {v w : Network τ} {name : Name}

theorem gives_iff (hname : Name.read text = .ok name) {data : List Rdata} :
    c.Gives server text type w data ↔
      data = (w.recordsFor (c.message server name type)).map Record.data := by
  have hreply : ∀ answer, w.answer (c.message server name type) = .ok answer →
      answer.code = .noError → w.recordsFor (c.message server name type) = answer.holding type := by
    intro answer hanswer hcode
    rw [Network.recordsFor_of_ok hanswer, if_pos (beq_iff_eq.mpr hcode)]
    exact Answer.filterByType_recordsOf
  obtain ⟨-, hcase⟩ := c.resolve_sent hname type server w
  constructor
  · intro h
    rcases hcase with ⟨hnone, e, hr, -⟩ | ⟨hsome, -⟩
    · rw [hnone, h.fails.mpr ⟨e, hr⟩, List.map_nil]
    · obtain ⟨answer, hanswer, hcode, -⟩ := (Network.recordsFor_ne_nil_iff _ w).mp hsome
      rw [h.reply name answer hname hanswer hcode, hreply answer hanswer hcode]
  · rintro rfl
    refine ⟨?_, ?_⟩
    · intro n answer hn hanswer hcode
      obtain rfl : name = n := Except.ok.inj (hname.symm.trans hn)
      rw [hreply answer hanswer hcode]
    · rw [List.map_eq_nil_iff]
      rcases hcase with ⟨hnone, e, hr, -⟩ | ⟨hsome, t, hr⟩
      · exact iff_of_true hnone ⟨e, hr⟩
      · refine iff_of_false hsome ?_
        rintro ⟨e, he⟩
        rw [hr] at he
        cases he

theorem Gives.unique
    (hsame : ∀ name, Name.read text = .ok name →
      v.answer (c.message server name type) = w.answer (c.message server name type))
    {data data' : List Rdata} (h : c.Gives server text type v data)
    (h' : c.Gives server text type w data') : data = data' := by
  cases hname : Name.read text with
  | error fault =>
    rw [h.fails.mpr ⟨_, by rw [c.resolve_nameless _ _ _ _ hname]⟩,
      h'.fails.mpr ⟨_, by rw [c.resolve_nameless _ _ _ _ hname]⟩]
  | ok name =>
    rw [gives_iff hname] at h h'
    rw [h, h', Network.recordsFor, Network.recordsFor, hsame name hname]

theorem exists_gives (c : Client τ) (server : String) {α : Type} {form : α → Rdata}
    (hform : ∀ d : Rdata, d.type = type → ∃ x, d = form x) (hname : Name.read text = .ok name)
    (w : Network τ) : ∃ xs : List α, c.Gives server text type w (xs.map form) ∧
      (w.recordsFor (c.message server name type)).map Record.data = xs.map form := by
  have htype : ∀ r ∈ w.recordsFor (c.message server name type), r.type = type := by
    intro r hr
    obtain ⟨-, -, -, -, h⟩ := Network.mem_recordsFor.mp hr
    exact h
  obtain ⟨xs, hxs⟩ := Dns.exists_data_eq hform htype
  exact ⟨xs, (gives_iff hname).mpr hxs.symm, hxs⟩

end Client

/-- A nameserver from the data about it: addresses of version four before those of version six. -/
def Nameserver.assembled (host : Name) (v4 : List Net.IPv4) (v6 : List (BitVec 128)) : Nameserver :=
  ⟨host.text, v4.map .v4 ++ v6.map fun value => .v6 ⟨value, none⟩, []⟩

namespace Discovery

/-- One nameserver for each host, in order, from what the two questions about the host give when they
are asked. -/
inductive Listing (c : Client τ) (server : String) :
    List Name → Network τ → List Nameserver → Prop
  | nil {w : Network τ} : Listing c server [] w []
  | cons {host : Name} {hosts : List Name} {v4 : List Net.IPv4} {v6 : List (BitVec 128)}
      {found : List Nameserver} {w : Network τ}
      (hv4 : c.Gives server host.text .a w (v4.map .a))
      (hv6 : c.Gives server host.text .aaaa (w.send [c.message server host .a]) (v6.map .aaaa))
      (hrest : Listing c server hosts (w.send (hostCalls c server host)) found) :
      Listing c server (host :: hosts) w (.assembled host v4 v6 :: found)

variable {c : Client τ} {server : String} {v w : Network τ} {hosts : List Name}
  {found : List Nameserver}

theorem addressesOf_a {records : List Record} {v4 : List Net.IPv4}
    (h : records.map Record.data = v4.map .a) : addressesOf records = v4.map .v4 :=
  Dns.filterMap_of_data (fun r x hr => by rw [addressOf?, hr]) h

theorem addressesOf_aaaa {records : List Record} {v6 : List (BitVec 128)}
    (h : records.map Record.data = v6.map .aaaa) :
    addressesOf records = v6.map fun value => .v6 ⟨value, none⟩ :=
  Dns.filterMap_of_data (fun r x hr => by rw [addressOf?, hr]) h

theorem listing_of_addresses (hnames : found.map Nameserver.name = hosts.map Name.text)
    (haddresses : found.map Nameserver.addresses = addressesAt c server hosts w)
    (hunowned : ∀ ns ∈ found, ns.ownership = []) : Listing c server hosts w found := by
  induction hosts generalizing found w with
  | nil =>
    obtain rfl := List.map_eq_nil_iff.mp hnames
    exact .nil
  | cons host hosts ih =>
    cases found with
    | nil => cases hnames
    | cons ns found =>
      rw [List.map_cons, List.map_cons, List.cons.injEq] at hnames
      rw [List.map_cons, addressesAt, List.cons.injEq] at haddresses
      rw [List.forall_mem_cons] at hunowned
      obtain ⟨v4, hv4, hdata4⟩ :=
        c.exists_gives server (fun d => d.of_type.1) host.read_text w
      obtain ⟨v6, hv6, hdata6⟩ :=
        c.exists_gives server (fun d => d.of_type.2.1) host.read_text
          (w.send [c.message server host .a])
      have hns : ns = .assembled host v4 v6 := by
        obtain ⟨name, addresses, ownership⟩ := ns
        obtain ⟨rfl, -⟩ := hnames
        obtain ⟨rfl, -⟩ := haddresses
        obtain ⟨rfl, -⟩ := hunowned
        rw [Nameserver.assembled, hostAddresses, addressesOf_a hdata4, addressesOf_aaaa hdata6]
      rw [hns]
      exact .cons hv4 hv6 (ih hnames.2 haddresses.2 hunowned.2)

theorem delegatedTo_data (c : Client τ) (server : String) (zone : Name) (w : Network τ) :
    (w.recordsFor (c.message server zone .ns)).map Record.data =
      (delegatedTo c server zone w).map .ns := by
  obtain ⟨hosts, -, hdata⟩ := c.exists_gives server (fun d => d.of_type.2.2) zone.read_text w
  have hhosts : delegatedTo c server zone w = hosts.map id :=
    Dns.filterMap_of_data (fun r x hr => by rw [targetOf?, hr, id]) hdata
  rw [hhosts, List.map_id, hdata]

/-- What discovery comes to, and the messages it sends: no nameservers because the first question
failed, or the list of those in its reply. -/
inductive Discovered (c : Client τ) (server domain : String) (w : Network τ) :
    Except Failure (List Nameserver) → List (Call τ) → Prop
  | failed {e : Failure} (hfails : (c.resolve domain .ns server false w).1 = .error e)
      (he : e.isResolution = true) :
      Discovered c server domain w (.error (.noNameservers domain e)) (c.messages server domain .ns)
  | listed {hosts : List Name} {found : List Nameserver}
      (hgives : c.Gives server domain .ns w (hosts.map .ns)) (hsome : found ≠ [])
      (hlist : Listing c server hosts (w.send (c.messages server domain .ns)) found) :
      Discovered c server domain w (.ok found)
        (c.messages server domain .ns ++ hosts.flatMap (hostCalls c server))

theorem exists_discovered (c : Client τ) (server domain : String) {w : Network τ}
    (hw : w.Orderly) : ∃ calls, Discovered c server domain w (discover c server domain w).1 calls ∧
      (discover c server domain w).2.calls = w.calls ++ calls := by
  cases hname : Name.read domain with
  | error fault =>
    have hr := c.resolve_nameless domain .ns server false hname w
    have hmessages : c.messages server domain .ns = [] := by rw [Client.messages, hname]
    rw [discover, hr]
    refine ⟨_, .failed (by rw [hr]) rfl, ?_⟩
    rw [hmessages, List.append_nil]
  | ok zone =>
    have hmessages : c.messages server domain .ns = [c.message server zone .ns] := by
      rw [Client.messages, hname]
    obtain ⟨u, hu, ⟨-, e, hr, he⟩ | ⟨hsome, t, hr⟩⟩ := c.resolve_sends hname .ns server (.refl w) hw
    · rw [discover, hr]
      dsimp only
      rw [if_pos he]
      refine ⟨_, .failed (by rw [hr]) he, ?_⟩
      rw [hmessages]
      exact Network.Sent.calls_eq hu
    · obtain ⟨x, hx, ⟨hnobody, -⟩ | ⟨found, hd, haddresses⟩⟩ :=
        discover_sends c server hname (.refl w) hw
      · have hnone := delegatedTo_data c server zone w
        rw [hnobody, List.map_nil, List.map_eq_nil_iff] at hnone
        exact absurd hnone hsome
      · obtain ⟨hne, zone', hname', hnames⟩ := discover_names hd
        obtain rfl : zone = zone' := Except.ok.inj (hname.symm.trans hname')
        have hgives : c.Gives server domain .ns w ((delegatedTo c server zone w).map .ns) :=
          (Client.gives_iff hname).mpr (delegatedTo_data c server zone w).symm
        have hlist := listing_of_addresses hnames haddresses (discover_unowned hd)
        rw [← hmessages] at hlist
        rw [hd]
        refine ⟨_, .listed hgives hne hlist, ?_⟩
        rw [hmessages]
        exact Network.Sent.calls_eq hx

/-- Two nameservers of one host, each version of whose addresses is the same unless the question for it
is among those with another reply. -/
inductive SameBut (changed : Name → RecordType → Prop) : Nameserver → Nameserver → Prop
  | intro {host : Name} {v4 w4 : List Net.IPv4} {v6 w6 : List (BitVec 128)}
      (h4 : ¬ changed host .a → v4 = w4) (h6 : ¬ changed host .aaaa → v6 = w6) :
      SameBut changed (.assembled host v4 v6) (.assembled host w4 w6)

/-- Of the replies to plain questions, those that did not change are the same in two networks. -/
def Unchanged (c : Client τ) (server : String) (changed : Name → RecordType → Prop)
    (v w : Network τ) : Prop :=
  ∀ name type, ¬ changed name type →
    v.answer (c.message server name type) = w.answer (c.message server name type)

variable {changed : Name → RecordType → Prop}

theorem Unchanged.send (h : Unchanged c server changed v w) (hv : v.Steady) (hw : w.Steady)
    (calls : List (Call τ)) : (v.send calls).Steady ∧ (w.send calls).Steady ∧
      Unchanged c server changed (v.send calls) (w.send calls) := by
  have hlv := Network.send_leads calls v
  have hlw := Network.send_leads calls w
  refine ⟨hv.leads hlv, hw.leads hlw, ?_⟩
  intro name type hkept
  rw [hv _ hlv, hw _ hlw, h name type hkept]

/-- In steady networks no reply depends on where in the list a host is, so each part of an entry has a
reply of its own. -/
theorem Listing.sameBut (hv : v.Steady) (hw : w.Steady) (h : Unchanged c server changed v w)
    {found' : List Nameserver} (hl : Listing c server hosts v found)
    (hl' : Listing c server hosts w found') : List.Forall₂ (SameBut changed) found found' := by
  induction hl generalizing w found' with
  | nil =>
    cases hl' with
    | nil => exact .nil
  | @cons host hosts v4 v6 found v hv4 hv6 hrest ih =>
    cases hl' with
    | @cons _ _ w4 w6 found' _ hw4 hw6 hrest' =>
      have hread : ∀ {name : Name}, Name.read host.text = .ok name → name = host := by
        intro name hname
        rw [host.read_text, Except.ok.injEq] at hname
        exact hname.symm
      refine .cons (.intro ?_ ?_) ?_
      · intro hkept
        have hdata := hv4.unique (fun name hname => h name .a (hread hname ▸ hkept)) hw4
        exact (List.map_injective_iff.mpr fun a b hab => Rdata.a.inj hab) hdata
      · intro hkept
        obtain ⟨-, -, h'⟩ := h.send hv hw [c.message server host .a]
        have hdata := hv6.unique (fun name hname => h' name .aaaa (hread hname ▸ hkept)) hw6
        exact (List.map_injective_iff.mpr fun a b hab => Rdata.aaaa.inj hab) hdata
      · obtain ⟨hv', hw', h'⟩ := h.send hv hw (hostCalls c server host)
        exact ih hv' hw' h' hrest'

theorem Listing.hosts_ne_nil (hl : Listing c server hosts w found) (hsome : found ≠ []) :
    hosts ≠ [] := by
  cases hl with
  | nil => exact absurd rfl hsome
  | cons => exact List.cons_ne_nil _ _

theorem Discovered.resolves {domain : String} {calls : List (Call τ)}
    (h : Discovered c server domain w (.ok found) calls) (e : Failure) :
    (c.resolve domain .ns server false w).1 ≠ .error e := by
  cases h with
  | listed hgives hsome hlist =>
    intro he
    exact hlist.hosts_ne_nil hsome (List.map_eq_nil_iff.mp (hgives.fails.mpr ⟨e, he⟩))

theorem Discovered.sameBut {domain : String} (hv : v.Steady) (hw : w.Steady)
    (h : Unchanged c server changed v w)
    (hkept : ∀ zone, Name.read domain = .ok zone → ¬ changed zone .ns)
    (hresolve : ∀ e, (c.resolve domain .ns server false v).1 = .error e ↔
      (c.resolve domain .ns server false w).1 = .error e)
    {x y : Except Failure (List Nameserver)} {calls calls' : List (Call τ)}
    (hx : Discovered c server domain v x calls) (hy : Discovered c server domain w y calls') :
    Outcomes Eq (List.Forall₂ (SameBut changed)) x y := by
  cases hx with
  | failed hfails =>
    have hfails' := (hresolve _).mp hfails
    cases hy with
    | failed hother =>
      rw [hfails'] at hother
      cases hother
      exact .error rfl
    | listed hgives hsome hlist =>
      exact absurd hfails' ((Discovered.listed hgives hsome hlist).resolves _)
  | listed hgives hsome hlist =>
    cases hy with
    | failed hfails =>
      exact absurd ((hresolve _).mpr hfails) ((Discovered.listed hgives hsome hlist).resolves _)
    | listed hgives' hsome' hlist' =>
      have hdata := hgives.unique (fun zone hzone => h zone .ns (hkept zone hzone)) hgives'
      have hhosts := (List.map_injective_iff.mpr fun a b hab => Rdata.ns.inj hab) hdata
      subst hhosts
      obtain ⟨hv', hw', h'⟩ := h.send hv hw (c.messages server domain .ns)
      exact .ok (hlist.sameBut hv' hw' h' hlist')

end Discovery

/-- Discovery fails with the failure of its first question, or lists the nameservers in the reply to it,
each with what the two questions about it give; and between steady networks other replies to some of
these questions change nothing but the parts of the nameservers that they answer. -/
theorem discover_lists (c : Client τ) (server domain : String) {w : Network τ} (hw : w.Orderly) :
    (∃ calls, Discovery.Discovered c server domain w (discover c server domain w).1 calls ∧
      (discover c server domain w).2.calls = w.calls ++ calls) ∧
    ∀ (v : Network τ) (changed : Name → RecordType → Prop), v.Orderly → v.Steady → w.Steady →
      (∀ zone, Name.read domain = .ok zone → ¬ changed zone .ns) →
      Discovery.Unchanged c server changed v w →
        Outcomes Eq (List.Forall₂ (Discovery.SameBut changed)) (discover c server domain v).1
          (discover c server domain w).1 := by
  obtain ⟨calls, hw', hcalls⟩ := Discovery.exists_discovered c server domain hw
  refine ⟨⟨calls, hw', hcalls⟩, ?_⟩
  intro v changed hv hsteady hsteady' hkept hunchanged
  obtain ⟨calls', hv', -⟩ := Discovery.exists_discovered c server domain hv
  refine hv'.sameBut hsteady hsteady' hunchanged hkept ?_ hw'
  have hresolve := c.resolve_congr domain .ns server false hv hw
    fun zone hzone => hunchanged zone .ns (hkept zone hzone)
  intro e
  rw [← map_eq_error, hresolve, map_eq_error]

/-- A nameserver with an address of version six, and what is said about one of version four. -/
def halfKnown (reply : Except Failure Answer) : Network Float :=
  let a : Name := .single 97
  .start 0 1 [.always none "example.com." "NS" (.ok ⟨.noError, [⟨a, 60, [.ns a]⟩]⟩),
    .always none "a." "AAAA" (.ok ⟨.noError, [⟨a, 60, [.aaaa 1]⟩]⟩), .always none "a." "A" reply] []

def knownReply : Except Failure Answer :=
  .ok ⟨.noError, [⟨.single 97, 60, [.a (.ofNat 0xC0000201)]⟩]⟩

theorem halfKnown_constant (reply : Except Failure Answer) :
    ∀ r ∈ (halfKnown reply).rules, r.Constant :=
  Network.forall_start (by simp)

theorem halfKnown_orderly {reply : Except Failure Answer}
    (h : ∀ e, reply = .error e → e.isAbsorbed = true) : (halfKnown reply).Orderly :=
  Network.orderly_of_start (by simpa using h)

/-- Only the question for the address of version four has another reply. -/
theorem halfKnown_unchanged (c : Client Float) (server : String) (reply reply' : Except Failure Answer) :
    Discovery.Unchanged c server (fun name type => lowerText name.text = "a." ∧ type.text = "A")
      (halfKnown reply) (halfKnown reply') := by
  intro name type hkept
  have hrules : ∀ said : Except Failure Answer, (halfKnown said).rules =
      [.always none "example.com." "NS" (.ok ⟨.noError, [⟨.single 97, 60, [.ns (.single 97)]⟩]⟩),
        .always none "a." "AAAA" (.ok ⟨.noError, [⟨.single 97, 60, [.aaaa 1]⟩]⟩),
        .always none "a." "A" said] := by
    intro said
    simp [halfKnown, Network.start, addRule, Rule.sameKey, Rule.always]
  have hskip : ∀ (from? : Option String) (said : Except Failure Answer),
      Rule.matchesCall from? (c.message server name type) (.always none "a." "A" said) = false := by
    intro from? said
    rw [Bool.eq_false_iff]
    intro hfits
    simp only [Rule.matchesCall, Rule.always, Bool.and_eq_true, beq_iff_eq] at hfits
    exact hkept ⟨hfits.1.2.symm, hfits.2.symm⟩
  rw [Network.answer_of_constant (halfKnown_constant reply),
    Network.answer_of_constant (halfKnown_constant reply'), hrules, hrules]
  simp only [firstOutcome?, List.find?_cons, List.find?_nil, hskip]

/-- Without the address of version four the nameserver keeps the one of version six. -/
theorem discover_lists_halfKnown :
    (halfKnown knownReply).Orderly ∧
    (discover (⟨2, 53⟩ : Client Float) "192.0.2.53" "example.com"
      (halfKnown knownReply)).1.toOption = some [.assembled (.single 97) [.ofNat 0xC0000201] [1]] ∧
    (discover (⟨2, 53⟩ : Client Float) "192.0.2.53" "example.com"
      (halfKnown (.error .timedOut))).1.toOption = some [.assembled (.single 97) [] [1]] ∧
    Outcomes Eq
      (List.Forall₂ (Discovery.SameBut fun name type => lowerText name.text = "a." ∧ type.text = "A"))
      (discover (⟨2, 53⟩ : Client Float) "192.0.2.53" "example.com" (halfKnown (.error .timedOut))).1
      (discover (⟨2, 53⟩ : Client Float) "192.0.2.53" "example.com" (halfKnown knownReply)).1 := by
  have hknown : (halfKnown knownReply).Orderly := by
    apply halfKnown_orderly
    intro e he
    rw [knownReply] at he
    cases he
  have hunknown : (halfKnown (.error .timedOut)).Orderly := by
    apply halfKnown_orderly
    intro e he
    cases he
    rfl
  refine ⟨hknown, by decide +kernel, by decide +kernel, ?_⟩
  obtain ⟨-, hother⟩ := discover_lists (⟨2, 53⟩ : Client Float) "192.0.2.53" "example.com" hknown
  refine hother (halfKnown (.error .timedOut)) _ hunknown
    (Network.steady_of_constant (halfKnown_constant _))
    (Network.steady_of_constant (halfKnown_constant _)) ?_ (halfKnown_unchanged _ _ _ _)
  rintro zone - ⟨-, htype⟩
  exact absurd htype (by decide)

end DelegationAudit
