import DelegationAudit.Proofs.Numerals
import DelegationAudit.Proofs.Remembrance

namespace DelegationAudit.Ownership

open Text Number

/-- Fields that tell the number of a network: there are three at least, and the first word of the first
is a numeral. -/
inductive Tells : List (List Char) → Int → Prop
  | intro {networks block country word : List Char} {more rest : List (List Char)} {n : Int}
      (hwords : words networks = word :: rest) (hword : Numeral word n) :
      Tells (networks :: block :: country :: more) n

theorem firstNumber_eq_some_iff {field : List Char} {n : Int} :
    firstNumber field = some n ↔ ∃ word rest, words field = word :: rest ∧ Numeral word n := by
  rw [firstNumber]
  cases hwords : words field with
  | nil => simp
  | cons word rest =>
    have hmem : word ∈ words field := by
      rw [hwords]
      exact List.mem_cons_self
    have hread : (readInteger word).toOption = some n ↔ readInteger word = .ok n := by
      cases readInteger word <;> simp [Except.toOption]
    simp [hread, readInteger_word hmem]

theorem numberIn_eq_some_iff {parts : List (List Char)} {n : Int} :
    numberIn parts = some n ↔ Tells parts n := by
  constructor
  · intro h
    rcases parts with _ | ⟨networks, _ | ⟨block, _ | ⟨country, more⟩⟩⟩
    iterate 3 cases h
    obtain ⟨word, rest, hwords, hword⟩ := firstNumber_eq_some_iff.mp h
    exact .intro hwords hword
  · rintro ⟨hwords, hword⟩
    exact firstNumber_eq_some_iff.mpr ⟨_, _, hwords, hword⟩

def untold (key : String) (parts : List (List Char)) : Failure :=
  .plain .ownership ((if parts.length < 3 then "unexpected origin answer for "
    else "bad ASN in origin answer for ") ++ key ++ ": " ++ quotedList parts)

namespace Source

variable {τ : Type} [Instant τ] (source : Source τ)

theorem readOrigin_untold (key : String) {parts : List (List Char)} (h : numberIn parts = none)
    (w : Network τ) : source.readOrigin key parts w = (.error (untold key parts), w) := by
  rcases parts with _ | ⟨networks, _ | ⟨block, _ | ⟨country, more⟩⟩⟩
  iterate 3 rfl
  have hnone : firstNumber networks = none := h
  have hmany : ¬ (networks :: block :: country :: more).length < 3 := by
    simp
  rw [readOrigin, untold, hnone, if_neg hmany]

theorem remembered_of_none {key : String} {s : Session τ} (h : (source.remembered key s).1 = none) :
    ∃ v : Network τ, v.SameButLog s.network ∧
      source.remembered key s = (none, ⟨v, s.cache.erase key⟩) := by
  rcases source.remembered_cases key s with ⟨entry, -, -, hr⟩ | ⟨-, hgone⟩
  · rw [hr] at h
    cases h
  · exact hgone

theorem fetch_answered {a : Net.Address} (ha : a.Unzoned) {v : Network τ}
    (h : v.recordsFor (source.originCall a) ≠ []) :
    source.fetch a v = source.readOrigin a.text (partsOf (v.recordsFor (source.originCall a)))
      (v.exchange (source.originCall a)).2 := by
  obtain ⟨text, htext⟩ := originName_ok ha
  rw [fetch, htext]
  obtain ⟨-, ⟨hnone, -⟩ | hask⟩ := source.ask_sent (read_originName ha htext) v
  · exact absurd hnone h
  · dsimp only
    rw [hask]
    rfl

/-- Fields that tell a number come to an owner if the question about the network ends well. -/
theorem readOrigin_tells {parts : List (List Char)} {n : Int} (h : Tells parts n) (key : String)
    (w : Network τ) : ∃ networks block country more word rest,
      parts = networks :: block :: country :: more ∧ words networks = word :: rest ∧ Numeral word n ∧
      (∀ e u, source.organization n w = (.error e, u) →
        source.readOrigin key parts w = (.error e, u)) ∧
      ∀ name u, source.organization n w = (.ok name, u) →
        source.readOrigin key parts w = (.ok ⟨nonEmpty country, some n, name, nonEmpty block⟩, u) := by
  cases h with
  | intro hwords hword =>
    have hnumber := firstNumber_eq_some_iff.mpr ⟨_, _, hwords, hword⟩
    refine ⟨_, _, _, _, _, _, rfl, hwords, hword, ?_, ?_⟩
    · intro e u he
      simp only [readOrigin, hnumber, he]
    · intro name u hname
      simp only [readOrigin, hnumber, hname]

/-- A lookup that has to ask depends on what the answer reads as. -/
theorem lookup_asks {a : Net.Address} (ha : a.Unzoned) {s : Session τ}
    (hnew : (source.remembered a.text s).1 = none)
    (hanswer : s.network.recordsFor (source.originCall a) ≠ []) :
    ∃ v, s.network.Leads v ∧ s.network.Sent [source.originCall a] v ∧
      (∀ e u, source.readOrigin a.text (partsOf (s.network.recordsFor (source.originCall a))) v =
        (.error e, u) → source.lookup a s = (.error e, ⟨u, s.cache.erase a.text⟩)) ∧
      ∀ info u, source.readOrigin a.text (partsOf (s.network.recordsFor (source.originCall a))) v =
        (.ok info, u) → source.lookup a s = (.ok info, ⟨u, s.cache.store a.text ⟨u.clock, info⟩⟩) := by
  obtain ⟨v, hv, hr⟩ := source.remembered_of_none hnew
  have hleads := source.remembered_leads a.text s
  rw [hr] at hleads
  rw [← hv.recordsFor] at hanswer ⊢
  refine ⟨(v.exchange (source.originCall a)).2, .exchange _ hleads, hv.send [source.originCall a], ?_, ?_⟩
  · intro e u he
    simp only [lookup, hr, source.fetch_answered ha hanswer, he]
  · intro info u hinfo
    simp only [lookup, hr, source.fetch_answered ha hanswer, hinfo]
    rw [Cache.store, Cache.store, Cache.erase_erase]

theorem recordsFor_ne_nil_of_announced {a : Net.Address} {w : Network τ} {n : Int}
    (h : announced (w.recordsFor (source.originCall a)) = some n) :
    w.recordsFor (source.originCall a) ≠ [] := by
  intro hnil
  rw [hnil] at h
  cases h

theorem lookup_announced {a : Net.Address} (ha : a.Unzoned) {s : Session τ} (hs : s.network.Orderly)
    (hnew : (source.remembered a.text s).1 = none) {n : Int}
    (hnumber : announced (s.network.recordsFor (source.originCall a)) = some n) :
    ∃ info s', source.lookup a s = (.ok info, s') ∧ info.asn = some n ∧
      info.organization = source.organizationIn n (s.network.exchange (source.originCall a)).2 := by
  have hanswer := source.recordsFor_ne_nil_of_announced hnumber
  obtain ⟨v, hleads, hsent, -, hlookup⟩ := source.lookup_asks ha hnew hanswer
  obtain ⟨_, _, _, _, _, _, -, -, -, -, hread⟩ :=
    source.readOrigin_tells (numberIn_eq_some_iff.mp hnumber) a.text v
  obtain ⟨name, u, hname⟩ := source.organization_ok n (hs.leads hleads)
  have horganization := (source.organization_sent n v).2 name (congrArg Prod.fst hname)
  exact ⟨_, _, hlookup _ _ (hread name u hname), rfl,
    horganization.trans (source.organizationIn_of_sameButLog n hsent)⟩

/-- The answer about the origin decides: what tells a number is an owner with this number, whatever comes of
the question about the name of its network, and what tells none is refused and forgotten. -/
theorem lookup_answered {a : Net.Address} (ha : a.Unzoned) {s : Session τ}
    (hnew : (source.remembered a.text s).1 = none) {strings : List (List Octet)}
    (hanswer : (s.network.recordsFor (source.originCall a)).head?.map (·.data) = some (.txt strings)) :
    (∀ info s', source.lookup a s = (.ok info, s') →
      ∃ networks block country more word rest n,
        fieldsOf (textOf strings) = networks :: block :: country :: more ∧
        words networks = word :: rest ∧ Numeral word n ∧
        ((∀ c ∈ word, c.isDigit = true) → n = ofDigits (digitsOf word)) ∧
        info = ⟨nonEmpty country, some n,
          source.organizationIn n (s.network.exchange (source.originCall a)).2, nonEmpty block⟩ ∧
        s'.network.calls = s.network.calls ++ source.originCall a :: source.networkCalls n ∧
        s'.cache = s.cache.store a.text ⟨s'.network.clock, info⟩) ∧
    (∀ n, Tells (fieldsOf (textOf strings)) n → s.network.Orderly →
      ∃ info s', source.lookup a s = (.ok info, s') ∧ info.asn = some n) ∧
    ((∀ n, ¬ Tells (fieldsOf (textOf strings)) n) →
      ∃ s', source.lookup a s = (.error (untold a.text (fieldsOf (textOf strings))), s') ∧
        s'.network.calls = s.network.calls ++ [source.originCall a] ∧
        s'.cache = s.cache.erase a.text) := by
  have hparts : partsOf (s.network.recordsFor (source.originCall a)) = fieldsOf (textOf strings) := by
    rw [partsOf, hanswer]
  have hne : s.network.recordsFor (source.originCall a) ≠ [] := by
    intro hnil
    rw [hnil] at hanswer
    cases hanswer
  obtain ⟨v, -, hsent, hfails, hlearns⟩ := source.lookup_asks ha hnew hne
  rw [hparts] at hfails hlearns
  refine ⟨?_, ?_, ?_⟩
  · intro info s' hok
    cases hnumber : numberIn (fieldsOf (textOf strings)) with
    | none =>
      rw [hfails _ _ (source.readOrigin_untold a.text hnumber v)] at hok
      cases hok
    | some n =>
      obtain ⟨networks, block, country, more, word, rest, hfields, hwords, hword, hmissed, hread⟩ :=
        source.readOrigin_tells (numberIn_eq_some_iff.mp hnumber) a.text v
      obtain ⟨hnext, horganization⟩ := source.organization_sent n v
      rcases hresult : source.organization n v with ⟨e | name, u⟩
      · rw [hfails _ _ (hmissed e u hresult)] at hok
        cases hok
      · rw [hlearns _ _ (hread name u hresult)] at hok
        rw [hresult] at hnext horganization
        obtain rfl : name = source.organizationIn n (s.network.exchange (source.originCall a)).2 :=
          (horganization name rfl).trans (source.organizationIn_of_sameButLog n hsent)
        have hvalue : (∀ c ∈ word, c.isDigit = true) → n = ofDigits (digitsOf word) :=
          fun hdigits => ((numeral_iff_of_isDigit hdigits).mp hword).2.2
        cases hok
        exact ⟨networks, block, country, more, word, rest, n, hfields, hwords, hword, hvalue, rfl,
          (hsent.trans hnext).calls_eq, rfl⟩
  · intro n htells hs
    have hnumber : announced (s.network.recordsFor (source.originCall a)) = some n := by
      rw [announced, hparts]
      exact numberIn_eq_some_iff.mpr htells
    obtain ⟨info, s', hok, hasn, -⟩ := source.lookup_announced ha hs hnew hnumber
    exact ⟨info, s', hok, hasn⟩
  · intro hnone
    have hnumber : numberIn (fieldsOf (textOf strings)) = none := by
      rw [Option.eq_none_iff_forall_ne_some]
      exact fun n hn => hnone n (numberIn_eq_some_iff.mp hn)
    exact ⟨_, hfails _ _ (source.readOrigin_untold a.text hnumber v), hsent.calls_eq, rfl⟩

/-- The answer about one address is a number with a minus sign in front. -/
def signedOrigin : Network ℚ :=
  .start 0 1 [.always none "1.2.0.192.origin.asn.cymru.com." "TXT"
    (.ok ⟨.noError, [⟨.single 97, 60, [.txt [[45, 53, 124, 124]]]⟩]⟩)] []

theorem signedOrigin_orderly : signedOrigin.Orderly :=
  Network.orderly_of_start (by simp)

/-- It is learned as it stands, and remembered; the second message is about the same number. -/
theorem lookup_answered_signed :
    ∃ info s', tenSeconds.lookup (.v4 (.ofNat 0xC0000201)) ⟨signedOrigin, []⟩ = (.ok info, s') ∧
      info.asn = some (-5) ∧ s'.cache.find? "192.0.2.1" = some ⟨s'.network.clock, info⟩ ∧
      s'.network.calls.map Call.line = [
        ("127.0.0.1", 53, "1.2.0.192.origin.asn.cymru.com.", "TXT"),
        ("127.0.0.1", 53, "AS-5.asn.cymru.com.", "TXT")] := by
  have hanswer : (signedOrigin.recordsFor (tenSeconds.originCall (.v4 (.ofNat 0xC0000201)))).head?.map
      (·.data) = some (.txt [[45, 53, 124, 124]]) := by decide +kernel
  have hfields : fieldsOf (textOf [[45, 53, 124, 124]]) = [['-', '5'], [], []] := by decide +kernel
  have hdigit : Grouped ['5'] [5] := .last (by decide)
  have htells : Tells (fieldsOf (textOf [[45, 53, 124, 124]])) (-5) := by
    rw [hfields]
    exact .intro (by decide : words ['-', '5'] = [['-', '5']]) (.minus hdigit (by decide))
  obtain ⟨hlearned, htold, -⟩ :=
    lookup_answered tenSeconds (a := .v4 (.ofNat 0xC0000201)) trivial (s := ⟨signedOrigin, []⟩) rfl hanswer
  obtain ⟨info, s', hok, hnumber⟩ := htold (-5) htells signedOrigin_orderly
  obtain ⟨_, _, _, _, _, _, n, -, -, -, -, hinfo, hcalls, hcache⟩ := hlearned info s' hok
  obtain rfl : n = -5 := by
    rw [hinfo] at hnumber
    exact Option.some_inj.mp hnumber
  have htext : (Net.Address.v4 (.ofNat 0xC0000201)).text = "192.0.2.1" := by decide +kernel
  refine ⟨info, s', hok, hnumber, ?_, ?_⟩
  · rw [hcache, htext]
    exact Cache.find?_store _ _ _
  · rw [hcalls]
    decide +kernel

end Source

end DelegationAudit.Ownership
