import DelegationAudit.Proofs.Merging
import DelegationAudit.Proofs.RecordText
import DelegationAudit.Proofs.Script

namespace DelegationAudit.Dns

open Text

/-- Owner, type and data of two records are the same text, but for the case of letters. -/
def Record.Spelled (r s : Record) : Prop :=
  lower r.owner.chars = lower s.owner.chars ∧ r.type = s.type ∧
    lower r.data.chars = lower s.data.chars

theorem Record.spelled_iff_key {r s : Record} : r.Spelled s ↔ r.key = s.key := by
  rw [Spelled, key, key, Prod.mk.injEq, Prod.mk.injEq]

theorem mem_map_key_merge {lists : List (List Record)} {r : Record} (h : r ∈ lists.flatten) :
    r.key ∈ (merge lists).map Record.key := by
  rw [map_key_merge, List.mem_eraseDups]
  exact List.mem_map_of_mem h

/-- Lists merged one after another hold what they hold merged at once: some of the records in their
order, and of records that are spelled alike just one. Nothing that went in before changes it, and it
holds of every type what the records of that type come to. -/
theorem merge_incremental (lists : List (List Record)) (types : List RecordType) :
    lists.foldl (fun merged next => merge [merged, next]) [] = merge lists ∧
    (merge lists).Sublist lists.flatten ∧
    (merge lists).Pairwise (fun r s => ¬ r.Spelled s) ∧
    (∀ r ∈ lists.flatten, ∃ s ∈ merge lists, s.Spelled r) ∧
    (∀ again : List (List Record), (∀ l ∈ again, l ∈ lists ∨ l = merge lists) →
      merge (merge lists :: again) = merge lists) ∧
    filterByType types (merge lists) = merge (lists.map (filterByType types)) := by
  have hsublist : (merge lists).Sublist lists.flatten := mergeFrom_sublist _
  refine ⟨?_, hsublist, ?_, ?_, ?_, ?_⟩
  · simpa using foldl_merge id lists
  · refine (List.pairwise_map.mp (nodup_map_key_merge lists)).imp ?_
    intro r s hne hspelled
    exact hne (Record.spelled_iff_key.mp hspelled)
  · intro r hr
    obtain ⟨s, hs, hkey⟩ := List.mem_map.mp (mem_map_key_merge hr)
    exact ⟨s, hs, Record.spelled_iff_key.mpr hkey⟩
  · intro again hagain
    have hseen : ∀ r ∈ again.flatten, r.key ∈ lists.flatten.map Record.key ++ [] := by
      intro r hr
      obtain ⟨l, hl, hr⟩ := List.mem_flatten.mp hr
      rw [List.append_nil]
      apply List.mem_map_of_mem
      rcases hagain l hl with hlists | rfl
      · exact List.mem_flatten.mpr ⟨l, hlists, hr⟩
      · exact hsublist.subset hr
    rw [merge, List.flatten_cons, merge, mergeFrom_mergeFrom_append, mergeFrom_append,
      mergeFrom_eq_nil hseen, List.append_nil]
  · rw [filterByType, merge, filter_mergeFrom, merge, List.filter_flatten]
    · rfl
    · intro r s hkey
      have htype : r.type = s.type := congrArg (fun key => key.2.1) hkey
      rw [htype]

/-- Two keys and three nameservers, some of them told twice in letters of the other case. -/
def toldTwice : List (List Record) :=
  let key : PlainData := ⟨⟨48⟩, "257 3 8 AwEAAQ==".toList, by decide⟩
  let shouted : PlainData := ⟨⟨48⟩, "257 3 8 AWEAAQ==".toList, by decide⟩
  let other : PlainData := ⟨⟨48⟩, "256 3 8 AwEAAQ==".toList, by decide⟩
  [[⟨.single 97, 60, .plain key⟩, ⟨.single 97, 60, .ns (.single 98)⟩],
    [⟨.single 65, 30, .ns (.single 66)⟩, ⟨.single 98, 60, .ns (.single 98)⟩,
      ⟨.single 97, 60, .plain shouted⟩],
    [⟨.single 97, 30, .plain other⟩, ⟨.single 97, 60, .ns (.single 97)⟩]]

/-- The first of each stays, also of a type without a form of its own. -/
theorem merge_incremental_toldTwice :
    toldTwice.foldl (fun merged next => merge [merged, next]) [] = merge toldTwice ∧
    (merge toldTwice).map (fun r => (r.ttl, r.data.text)) =
      [(60, "257 3 8 AwEAAQ=="), (60, "b."), (60, "b."), (30, "256 3 8 AwEAAQ=="), (60, "a.")] ∧
    merge (merge toldTwice :: toldTwice) = merge toldTwice ∧
    (merge (toldTwice.map (filterByType [⟨48⟩]))).map (fun r => r.data.text) =
      ["257 3 8 AwEAAQ==", "256 3 8 AwEAAQ=="] := by
  obtain ⟨honce, -, -, -, hagain, hfilter⟩ := merge_incremental toldTwice [⟨48⟩]
  refine ⟨honce, by decide +kernel, hagain toldTwice fun l hl => .inl hl, ?_⟩
  rw [← hfilter]
  decide +kernel

namespace Record

/-- Records are the same for the DNS, whatever their time to live. -/
def same (r s : Record) : Bool := r.owner.same s.owner && r.type == s.type && r.data.same s.data

/-- Records that nothing but the case of letters tells apart. -/
def alike (r s : Record) : Bool :=
  r.owner.same s.owner && r.type == s.type && r.data.lowered == s.data.lowered

/-- Different texts under one owner that are the same in small letters. Data without a form of their own
are nothing but text. -/
def Variant (r s : Record) : Prop :=
  r.owner.same s.owner = true ∧ ((∃ x y, r.data = .txt x ∧ s.data = .txt y ∧ x ≠ y ∧
    x.map lowerLabel = y.map lowerLabel) ∨ ∃ x y, r.data = .plain x ∧ s.data = .plain y ∧ x ≠ y ∧
      x.type = y.type ∧ lower x.chars = lower y.chars)

theorem alike_iff_key {r s : Record} : r.alike s = true ↔ r.key = s.key := by
  rw [key_eq_iff, alike, Bool.and_eq_true, Bool.and_eq_true, Name.same_iff, beq_iff_eq, beq_iff_eq]
  constructor
  · rintro ⟨⟨howner, -⟩, hdata⟩
    exact ⟨howner, hdata⟩
  · rintro ⟨howner, hdata⟩
    exact ⟨⟨howner, (Rdata.lowered_eq_iff.mp hdata).1⟩, hdata⟩

end Record

theorem Authority.lowered_eq_iff {s t : Authority} :
    Rdata.lowered (.soa s) = Rdata.lowered (.soa t) ↔ s.same t = true := by
  simp [Rdata.lowered, Authority.same, Name.same_iff, and_assoc]

namespace Rdata

theorem same_refl (x : Rdata) : x.same x = true := by
  cases x <;> simp [same, Authority.same, Name.same]

/-- Small letters make the same of data that are the same, and of texts that differ in letters only. -/
theorem lowered_eq_iff_same {x y : Rdata} : x.lowered = y.lowered ↔
    x.same y = true ∨ (∃ s t, x = .txt s ∧ y = .txt t ∧ s ≠ t ∧ s.map lowerLabel = t.map lowerLabel) ∨
      ∃ s t, x = .plain s ∧ y = .plain t ∧ s ≠ t ∧ s.type = t.type ∧
        lower s.chars = lower t.chars := by
  cases x with
  | txt s =>
    cases y with
    | txt t => by_cases hst : s = t <;> simp [lowered, same, hst]
    | _ => simp [lowered, same]
  | plain s =>
    cases y with
    | plain t => by_cases hst : s = t <;> simp [lowered, same, hst]
    | _ => simp [lowered, same]
  | soa s =>
    cases y with
    | soa t => simpa [same] using Authority.lowered_eq_iff
    | _ => simp [lowered, same]
  | _ => cases y <;> simp [lowered, same, Name.same_iff]

end Rdata

namespace Record

theorem same_refl (r : Record) : r.same r = true := by
  simp [same, Name.same, r.data.same_refl]

theorem alike_iff {r s : Record} : r.alike s = true ↔ r.same s = true ∨ r.Variant s := by
  simp only [alike, same, Variant, Bool.and_eq_true, beq_iff_eq, Rdata.lowered_eq_iff_same]
  constructor
  · rintro ⟨⟨howner, htypes⟩, hsame | hvariant⟩
    · exact .inl ⟨⟨howner, htypes⟩, hsame⟩
    · exact .inr ⟨howner, hvariant⟩
  · rintro (⟨hboth, hsame⟩ | ⟨howner, hvariant⟩)
    · exact ⟨hboth, .inl hsame⟩
    · have htypes : r.type = s.type := by
        rcases hvariant with ⟨x, y, hx, hy, -⟩ | ⟨x, y, hx, hy, -, htypes, -⟩
        · rw [type, hx, type, hy]
          rfl
        · rw [type, hx, type, hy]
          exact htypes
      exact ⟨⟨howner, htypes⟩, .inr hvariant⟩

theorem Variant.not_same {r s t : Record} (h : r.Variant s) (hr : r.same t = true)
    (hs : s.same t = true) : False := by
  have hrt := (Bool.and_eq_true_iff.mp hr).2
  have hst := (Bool.and_eq_true_iff.mp hs).2
  rcases h.2 with ⟨x, y, hx, hy, hne, -⟩ | ⟨x, y, hx, hy, hne, -⟩
  all_goals
    rw [hx] at hrt
    rw [hy] at hst
    cases ht : t.data with
    | txt z | plain z =>
      rw [ht] at hrt hst
      first
      | exact hne ((beq_iff_eq.mp hrt).trans (beq_iff_eq.mp hst).symm)
      | cases hrt
    | _ =>
      rw [ht] at hrt
      cases hrt

end Record

/-- The keys that have been seen are those of the records kept so far. -/
theorem loop_eq_mergeFrom (records kept : List Record) :
    List.eraseDupsBy.loop Record.alike records kept =
      kept.reverse ++ mergeFrom (kept.map Record.key) records := by
  induction records generalizing kept with
  | nil => rw [List.eraseDupsBy.loop, mergeFrom, List.append_nil]
  | cons r records ih =>
    have hany : kept.any (Record.alike r) = true ↔ r.key ∈ kept.map Record.key := by
      rw [List.any_eq_true, List.mem_map]
      constructor
      · rintro ⟨s, hs, hrs⟩
        exact ⟨s, hs, (Record.alike_iff_key.mp hrs).symm⟩
      · rintro ⟨s, hs, hkey⟩
        exact ⟨s, hs, Record.alike_iff_key.mpr hkey.symm⟩
    rw [List.eraseDupsBy.loop, mergeFrom_cons]
    by_cases hr : r.key ∈ kept.map Record.key
    · rw [hany.mpr hr, if_pos hr]
      exact ih kept
    · rw [Bool.eq_false_iff.mpr (mt hany.mp hr), if_neg hr]
      dsimp only
      rw [ih, List.reverse_cons, List.append_assoc]
      rfl

theorem merge_eq_eraseDupsBy (lists : List (List Record)) :
    merge lists = lists.flatten.eraseDupsBy Record.alike :=
  (loop_eq_mergeFrom lists.flatten []).symm

/-- Merging keeps the first of all records that are alike. These are the first occurrences of the records
just when no two texts are variants of each other: no record stays twice, but of variants only the first
does. -/
theorem merge_first_occurrences (lists : List (List Record)) :
    merge lists = lists.flatten.eraseDupsBy Record.alike ∧
    (merge lists = lists.flatten.eraseDupsBy Record.same ↔
      ∀ r ∈ lists.flatten, ∀ s ∈ lists.flatten, ¬ r.Variant s) ∧
    (merge lists).Pairwise (fun r s => r.same s = false) ∧
    ∀ r ∈ lists.flatten, ∃ s ∈ merge lists, r.same s = true ∨ r.Variant s := by
  have halike : ∀ r : Record, r.alike r = true := fun r => Record.alike_iff.mpr (.inl r.same_refl)
  refine ⟨merge_eq_eraseDupsBy lists, ⟨?_, ?_⟩, ?_, ?_⟩
  · intro hfirsts r hr s hs hvariant
    obtain ⟨r', hr', hrr'⟩ := exists_mem_eraseDupsBy Record.same_refl hr
    obtain ⟨s', hs', hss'⟩ := exists_mem_eraseDupsBy Record.same_refl hs
    rw [← hfirsts] at hr' hs'
    have hkey : r'.key = s'.key := by
      rw [← Record.alike_iff_key.mp (Record.alike_iff.mpr (.inl hrr')),
        ← Record.alike_iff_key.mp (Record.alike_iff.mpr (.inl hss'))]
      exact Record.alike_iff_key.mp (Record.alike_iff.mpr (.inr hvariant))
    obtain rfl := List.inj_on_of_nodup_map (nodup_map_key_merge lists) hr' hs' hkey
    exact hvariant.not_same hrr' hss'
  · intro hnone
    rw [merge_eq_eraseDupsBy]
    apply eraseDupsBy_congr
    intro r hr s hs
    rw [Bool.eq_iff_iff, Record.alike_iff, or_iff_left (hnone r hr s hs)]
  · refine (List.pairwise_map.mp (nodup_map_key_merge lists)).imp ?_
    intro r s hne
    rw [Bool.eq_false_iff]
    intro hsame
    exact hne (Record.alike_iff_key.mp (Record.alike_iff.mpr (.inl hsame)))
  · intro r hr
    obtain ⟨s, hs, hrs⟩ := exists_mem_eraseDupsBy halike hr
    rw [← merge_eq_eraseDupsBy] at hs
    exact ⟨s, hs, Record.alike_iff.mp hrs⟩

/-- One text in capitals and in small letters. -/
def bothCases : List (List Record) :=
  [[⟨.single 97, 60, .txt [[65]]⟩, ⟨.single 97, 60, .txt [[97]]⟩]]

/-- The second text is lost. -/
theorem merge_first_occurrences_bothCases :
    merge bothCases = [⟨.single 97, 60, .txt [[65]]⟩] ∧
    merge bothCases ≠ bothCases.flatten.eraseDupsBy Record.same := by
  refine ⟨by decide +kernel, ?_⟩
  intro hfirsts
  refine (merge_first_occurrences bothCases).2.1.mp hfirsts
    ⟨.single 97, 60, .txt [[65]]⟩ (by simp [bothCases])
    ⟨.single 97, 60, .txt [[97]]⟩ (by simp [bothCases]) ?_
  exact ⟨by decide, .inl ⟨[[65]], [[97]], rfl, rfl, by decide, by decide⟩⟩

end DelegationAudit.Dns
