import DelegationAudit.Proofs.Rotation

namespace DelegationAudit

open Dns

section Change

variable (change : Answer → Answer)

/-- What is said to a question of this type, where answers about text are changed. -/
def mapText (word : String) (reply : Except Failure Answer) : Except Failure Answer :=
  if word = RecordType.txt.text then reply.map change else reply

theorem mapText_txt (reply : Except Failure Answer) :
    mapText change RecordType.txt.text reply = reply.map change := if_pos rfl

theorem mapText_of_ne {type : RecordType} (h : type ≠ .txt) (reply : Except Failure Answer) :
    mapText change type.text reply = reply := by
  have hword : (RecordType.txt.code.toNat, RecordType.txt.text) ∈ RecordType.names := by decide +kernel
  exact if_neg fun htext => h (RecordType.eq_of_text hword htext)

theorem mapText_eq_error_iff {word : String} {reply : Except Failure Answer} {e : Failure} :
    mapText change word reply = .error e ↔ reply = .error e := by
  rw [mapText]
  split
  · cases reply <;> simp [Except.map]
  · rfl

variable {τ : Type}

def Reply.mapText (word : String) (reply : Reply τ) : Reply τ :=
  { reply with outcome := DelegationAudit.mapText change word reply.outcome }

def Rule.mapText (r : Rule τ) : Rule τ := { r with replies := r.replies.map (Reply.mapText change r.type) }

def Network.mapText (w : Network τ) : Network τ := { w with rules := w.rules.map (Rule.mapText change) }

theorem Rule.matchesCall_mapText (server : Option String) (call : Call τ) (r : Rule τ) :
    matchesCall server call (r.mapText change) = matchesCall server call r := rfl

theorem Rule.reply?_mapText (r : Rule τ) :
    (r.mapText change).reply? = r.reply?.map (Reply.mapText change r.type) := by
  rw [reply?, reply?, mapText, ← List.map_drop, List.head?_map, List.getLast?_map]
  cases (r.replies.drop r.uses).head? <;> rfl

theorem takeReply_mapText (server : Option String) (call : Call τ) (rules : List (Rule τ)) :
    takeReply (Rule.matchesCall server call) (rules.map (Rule.mapText change)) =
      (takeReply (Rule.matchesCall server call) rules).map
        (Prod.map (Reply.mapText change call.query.type.text) (List.map (Rule.mapText change))) := by
  induction rules with
  | nil => rfl
  | cons r rest ih =>
    rw [List.map_cons, takeReply, takeReply, Rule.matchesCall_mapText]
    split
    next hfits =>
      have htype := Rule.type_of_matchesCall hfits
      rw [Rule.reply?_mapText, Option.map_map, Option.map_map, ← htype]
      rfl
    next =>
      rw [ih, Option.map_map, Option.map_map]
      rfl

namespace Network

theorem select_mapText (call : Call τ) (rules : List (Rule τ)) :
    select call (rules.map (Rule.mapText change)) =
      (select call rules).map
        (Prod.map (Reply.mapText change call.query.type.text) (List.map (Rule.mapText change))) := by
  rw [select, select, takeReply_mapText, takeReply_mapText]
  cases takeReply (Rule.matchesCall (some call.server) call) rules <;> rfl

variable [Instant τ]

theorem exchange_mapText (call : Call τ) (w : Network τ) :
    (w.mapText change).exchange call =
      (DelegationAudit.mapText change call.query.type.text (w.exchange call).1,
        (w.exchange call).2.mapText change) := by
  have hselect := select_mapText change call w.rules
  unfold exchange
  rw [mapText]
  dsimp only
  rw [hselect]
  cases select call w.rules with
  -- That a question times out is no answer, and stays what it is.
  | none => exact congrArg (·, _) ((mapText_eq_error_iff change).mpr rfl).symm
  | some taken => rfl

theorem Leads.exists_mapText {w u : Network τ} (h : (w.mapText change).Leads u) :
    ∃ v, w.Leads v ∧ u = v.mapText change := by
  induction h with
  | refl => exact ⟨w, .refl, rfl⟩
  | exchange call _ ih =>
    obtain ⟨v, hv, rfl⟩ := ih
    exact ⟨_, .exchange call hv, by rw [exchange_mapText]⟩
  | note level source message _ ih =>
    obtain ⟨v, hv, rfl⟩ := ih
    exact ⟨_, .note level source message hv, rfl⟩
  | wait span _ ih =>
    obtain ⟨v, hv, rfl⟩ := ih
    exact ⟨_, .wait span hv, rfl⟩

theorem Orderly.mapText {w : Network τ} (h : w.Orderly) : (w.mapText change).Orderly := by
  intro u hu call e he
  obtain ⟨v, hv, rfl⟩ := Leads.exists_mapText change hu
  rw [answer, exchange_mapText] at he
  exact h v hv call e ((mapText_eq_error_iff change).mp he)

end Network

end Change

section Lists

variable {α β γ : Type} {R : α → β → Prop} {f : β → γ}

theorem exists_forall₂_map_iff {S : α → γ → Prop} (h : ∀ x z, (∃ y, R x y ∧ f y = z) ↔ S x z)
    {xs : List α} {zs : List γ} :
    (∃ ys, List.Forall₂ R xs ys ∧ ys.map f = zs) ↔ List.Forall₂ S xs zs := by
  constructor
  · rintro ⟨ys, hys, rfl⟩
    rw [List.forall₂_map_right_iff]
    exact hys.imp fun x y hxy => (h x (f y)).mp ⟨y, hxy, rfl⟩
  · intro hzs
    induction hzs with
    | nil => exact ⟨[], .nil, rfl⟩
    | @cons x z xs zs hxz _ ih =>
      obtain ⟨y, hxy, rfl⟩ := (h x z).mpr hxz
      obtain ⟨ys, hys, rfl⟩ := ih
      exact ⟨y :: ys, .cons hxy hys, rfl⟩

theorem map_eq_map_of_forall₂ {g : α → γ} {xs : List α} {ys : List β}
    (h : List.Forall₂ (fun x y => g x = f y) xs ys) : xs.map g = ys.map f := by
  rwa [← List.forall₂_eq_eq_eq, List.forall₂_map_left_iff, List.forall₂_map_right_iff]

theorem rel_head? {xs : List α} {ys : List β} (h : List.Forall₂ R xs ys) :
    Option.Rel R xs.head? ys.head? := by
  cases h with
  | nil => exact .none
  | cons hxy _ => exact .some hxy

end Lists

variable {τ : Type}

/-- Outcomes of one question that are the same, or answers about text that are related. -/
def TextRelated (R : Answer → Answer → Prop) (word : String) (x y : Except Failure Answer) : Prop :=
  if word = RecordType.txt.text then Outcomes Eq R x y else x = y

structure Reply.SameButText (R : Answer → Answer → Prop) (word : String) (x y : Reply τ) : Prop where
  outcome : TextRelated R word x.outcome y.outcome
  rest : y = { x with outcome := y.outcome }

structure Rule.SameButText (R : Answer → Answer → Prop) (r s : Rule τ) : Prop where
  replies : List.Forall₂ (Reply.SameButText R r.type) r.replies s.replies
  rest : s = { r with replies := s.replies }

/-- Networks that are the same but for the answers to questions about text, which are related. -/
structure Network.SameButText (R : Answer → Answer → Prop) (v w : Network τ) : Prop where
  rules : List.Forall₂ (Rule.SameButText R) v.rules w.rules
  rest : w = { v with rules := w.rules }

section Change

variable {R S : Answer → Answer → Prop} {change : Answer → Answer}
  (h : ∀ a c, (∃ b, R a b ∧ change b = c) ↔ S a c)

include h

theorem exists_outcomes_iff {x z : Except Failure Answer} :
    (∃ y, Outcomes Eq R x y ∧ y.map change = z) ↔ Outcomes Eq S x z := by
  constructor
  · rintro ⟨y, hxy, rfl⟩
    cases hxy with
    | error he => exact .error he
    | ok hab => exact .ok ((h _ _).mp ⟨_, hab, rfl⟩)
  · intro hxz
    cases hxz with
    | @error e f he => exact ⟨.error f, .error he, rfl⟩
    | ok hac =>
      obtain ⟨b, hab, rfl⟩ := (h _ _).mpr hac
      exact ⟨.ok b, .ok hab, rfl⟩

theorem exists_textRelated_iff {word : String} {x z : Except Failure Answer} :
    (∃ y, TextRelated R word x y ∧ mapText change word y = z) ↔ TextRelated S word x z := by
  unfold TextRelated mapText
  split
  · exact exists_outcomes_iff h
  · simp

theorem Reply.exists_sameButText_iff {word : String} {x z : Reply τ} :
    (∃ y, x.SameButText R word y ∧ y.mapText change word = z) ↔ x.SameButText S word z := by
  constructor
  · rintro ⟨y, ⟨houtcome, hrest⟩, rfl⟩
    refine ⟨(exists_textRelated_iff h).mp ⟨_, houtcome, rfl⟩, ?_⟩
    rw [mapText, hrest]
  · rintro ⟨houtcome, hrest⟩
    obtain ⟨y, hy, hz⟩ := (exists_textRelated_iff h).mpr houtcome
    refine ⟨{ x with outcome := y }, ⟨hy, rfl⟩, ?_⟩
    rw [mapText, hrest, hz]

theorem Rule.exists_sameButText_iff {r t : Rule τ} :
    (∃ s, r.SameButText R s ∧ s.mapText change = t) ↔ r.SameButText S t := by
  have hreplies : ∀ replies : List (Reply τ),
      (∃ ys, List.Forall₂ (Reply.SameButText R r.type) r.replies ys ∧
        ys.map (Reply.mapText change r.type) = replies) ↔
      List.Forall₂ (Reply.SameButText S r.type) r.replies replies :=
    fun _ => exists_forall₂_map_iff fun _ _ => Reply.exists_sameButText_iff h
  constructor
  · rintro ⟨s, ⟨hrelated, hrest⟩, rfl⟩
    rw [hrest]
    exact ⟨(hreplies _).mp ⟨s.replies, hrelated, rfl⟩, rfl⟩
  · rintro ⟨hrelated, hrest⟩
    obtain ⟨replies, hr, ht⟩ := (hreplies _).mpr hrelated
    refine ⟨{ r with replies := replies }, ⟨hr, rfl⟩, ?_⟩
    rw [mapText, hrest, ← ht]

/-- Two steps from one network to another: related answers, and then each of them changed. -/
theorem Network.exists_sameButText_iff {v u : Network τ} :
    (∃ w, v.SameButText R w ∧ w.mapText change = u) ↔ v.SameButText S u := by
  have hrules : ∀ rules : List (Rule τ),
      (∃ ys, List.Forall₂ (Rule.SameButText R) v.rules ys ∧ ys.map (Rule.mapText change) = rules) ↔
      List.Forall₂ (Rule.SameButText S) v.rules rules :=
    fun _ => exists_forall₂_map_iff fun _ _ => Rule.exists_sameButText_iff h
  constructor
  · rintro ⟨w, ⟨hrelated, hrest⟩, rfl⟩
    rw [hrest]
    exact ⟨(hrules _).mp ⟨w.rules, hrelated, rfl⟩, rfl⟩
  · rintro ⟨hrelated, hrest⟩
    obtain ⟨rules, hr, hu⟩ := (hrules _).mpr hrelated
    refine ⟨{ v with rules := rules }, ⟨hr, rfl⟩, ?_⟩
    rw [mapText, hrest, ← hu]

end Change

section Related

variable {R : Answer → Answer → Prop} {change : Answer → Answer}

theorem mapText_eq_of_related (h : ∀ a b, R a b → change a = change b) {word : String}
    {x y : Except Failure Answer} (hxy : TextRelated R word x y) :
    mapText change word x = mapText change word y := by
  rw [TextRelated] at hxy
  rw [mapText, mapText]
  split at hxy
  next hword =>
    rw [if_pos hword, if_pos hword]
    exact Outcomes.map_eq (hxy.mono h)
  next => rw [hxy]

theorem Network.SameButText.mapText_eq (h : ∀ a b, R a b → change a = change b) {v w : Network τ}
    (hvw : v.SameButText R w) : v.mapText change = w.mapText change := by
  have hreply : ∀ (word : String) (x y : Reply τ), x.SameButText R word y →
      x.mapText change word = y.mapText change word := by
    intro word x y hxy
    rw [Reply.mapText, Reply.mapText, ← mapText_eq_of_related h hxy.outcome, hxy.rest]
  have hrule : ∀ r s : Rule τ, r.SameButText R s → r.mapText change = s.mapText change := by
    intro r s hrs
    have hreplies := map_eq_map_of_forall₂ (hrs.replies.imp (hreply r.type))
    rw [Rule.mapText, hreplies, hrs.rest]
    rfl
  have hrules := map_eq_map_of_forall₂ (hvw.rules.imp hrule)
  rw [mapText, hrules, hvw.rest]
  rfl

theorem textRelated_mapText (h : ∀ a, R a (change a)) (word : String) (x : Except Failure Answer) :
    TextRelated R word x (mapText change word x) := by
  unfold TextRelated mapText
  split
  · cases x with
    | error e => exact .error rfl
    | ok a => exact .ok (h a)
  · rfl

theorem Network.sameButText_mapText (h : ∀ a, R a (change a)) (v : Network τ) :
    v.SameButText R (v.mapText change) where
  rules := by
    have hreplies : ∀ r : Rule τ,
        List.Forall₂ (Reply.SameButText R r.type) r.replies (r.mapText change).replies := fun r =>
      List.forall₂_map_right_iff.mpr
        (List.forall₂_same.mpr fun x _ => ⟨textRelated_mapText h r.type x.outcome, rfl⟩)
    exact List.forall₂_map_right_iff.mpr (List.forall₂_same.mpr fun r _ => ⟨hreplies r, rfl⟩)
  rest := rfl

theorem TextRelated.error (word : String) (e : Failure) : TextRelated R word (.error e) (.error e) := by
  unfold TextRelated
  split
  · exact .error rfl
  · rfl

theorem TextRelated.txt {a b : Answer} (h : R a b) : TextRelated R "TXT" (.ok a) (.ok b) := by
  unfold TextRelated
  rw [if_pos (by decide +kernel)]
  exact .ok h

theorem TextRelated.refl (h : ∀ a, R a a) (word : String) (x : Except Failure Answer) :
    TextRelated R word x x := by
  unfold TextRelated
  split
  · exact .of_eq rfl h
  · rfl

theorem Rule.SameButText.always {server : Option String} {name word : String}
    {x y : Except Failure Answer} (h : TextRelated R word x y) :
    (Rule.always server name word x : Rule τ).SameButText R (Rule.always server name word y) :=
  ⟨.cons ⟨h, rfl⟩ .nil, rfl⟩

theorem Rule.SameButText.reply? {r s : Rule τ} (h : r.SameButText R s) :
    Option.Rel (Reply.SameButText R r.type) r.reply? s.reply? := by
  have huses : s.uses = r.uses := by rw [h.rest]
  have hnext := rel_head? (List.forall₂_drop r.uses h.replies)
  have hlast := rel_head? (List.forall₂_reverse_iff.mpr h.replies)
  rw [Rule.reply?, Rule.reply?, huses, List.getLast?_eq_head?_reverse, List.getLast?_eq_head?_reverse]
  generalize (r.replies.drop r.uses).head? = x at hnext ⊢
  generalize (s.replies.drop r.uses).head? = y at hnext ⊢
  cases hnext with
  | none => exact hlast
  | some hxy => exact .some hxy

theorem takeReply_related {rules rules' : List (Rule τ)}
    (h : List.Forall₂ (Rule.SameButText R) rules rules') (server : Option String) (call : Call τ) :
    Option.Rel (fun t t' : Reply τ × List (Rule τ) =>
        TextRelated R call.query.type.text t.1.outcome t'.1.outcome)
      (takeReply (Rule.matchesCall server call) rules)
      (takeReply (Rule.matchesCall server call) rules') := by
  induction h with
  | nil => exact .none
  | @cons r s rest rest' hrs _ ih =>
    have hmatches : Rule.matchesCall server call s = Rule.matchesCall server call r := by
      rw [hrs.rest]
      rfl
    rw [takeReply, takeReply, hmatches]
    split
    next hfits =>
      have htype := Rule.type_of_matchesCall hfits
      have hreply := hrs.reply?
      rw [htype] at hreply
      generalize r.reply? = x at hreply ⊢
      generalize s.reply? = y at hreply ⊢
      cases hreply with
      | none => exact .none
      | some hxy => exact .some hxy.outcome
    next =>
      generalize takeReply (Rule.matchesCall server call) rest = x at ih ⊢
      generalize takeReply (Rule.matchesCall server call) rest' = y at ih ⊢
      cases ih with
      | none => exact .none
      | some hxy => exact .some hxy

theorem Network.SameButText.answer [Instant τ] {v w : Network τ} (h : v.SameButText R w)
    (call : Call τ) : TextRelated R call.query.type.text (v.answer call) (w.answer call) := by
  have hown := takeReply_related h.rules (some call.server) call
  have hany := takeReply_related h.rules none call
  rw [Network.answer, Network.answer, exchange, exchange, select, select]
  generalize takeReply (Rule.matchesCall (some call.server) call) v.rules = x at hown ⊢
  generalize takeReply (Rule.matchesCall (some call.server) call) w.rules = y at hown ⊢
  generalize takeReply (Rule.matchesCall none call) v.rules = x' at hany ⊢
  generalize takeReply (Rule.matchesCall none call) w.rules = y' at hany ⊢
  cases hown with
  | some hxy => exact hxy
  | none =>
    cases hany with
    | some hxy => exact hxy
    | none => exact .error _ _

end Related

end DelegationAudit
