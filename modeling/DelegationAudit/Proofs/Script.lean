import DelegationAudit.Proofs.Traffic

namespace DelegationAudit

theorem mem_of_lookup {α β : Type} [BEq α] [LawfulBEq α] {rows : List (α × β)} {a : α} {b : β}
    (h : rows.lookup a = some b) : (a, b) ∈ rows := by
  obtain ⟨before, after, hrows, -⟩ := List.lookup_eq_some_iff.mp h
  simp [hrows]

/-- A name of one label of one octet. -/
def Dns.Name.single (b : Text.Octet) : Dns.Name := ⟨[[b]], by simp, by simp [Dns.wireSize]⟩

variable {τ : Type}

namespace Rule

def script (r : Rule τ) : Rule τ := { r with uses := 0 }

@[simp] theorem script_replies (r : Rule τ) : r.script.replies = r.replies := rfl

theorem matchesCall_script (server : Option String) (call : Call τ) (r : Rule τ) :
    matchesCall server call r.script = matchesCall server call r := rfl

theorem type_of_matchesCall {server : Option String} {call : Call τ} {r : Rule τ}
    (h : matchesCall server call r = true) : r.type = call.query.type.text := by
  simp only [matchesCall, Bool.and_eq_true, beq_iff_eq] at h
  exact h.2

theorem reply?_mem {r : Rule τ} {reply : Reply τ} (h : r.reply? = some reply) :
    reply ∈ r.replies := by
  rw [reply?] at h
  cases hd : (r.replies.drop r.uses).head? with
  | some first =>
    rw [hd] at h
    cases h
    exact List.mem_of_mem_drop (List.mem_of_mem_head? hd)
  | none =>
    rw [hd] at h
    exact List.mem_of_getLast? h

/-- The same outcome whenever the rule is used. -/
def Constant (r : Rule τ) : Prop := ∀ a ∈ r.replies, ∀ b ∈ r.replies, a.outcome = b.outcome

def always (server : Option String) (name type : String) (outcome : Except Failure Answer) : Rule τ :=
  ⟨server, name, type, [⟨outcome, none⟩], 0⟩

@[simp] theorem always_constant (server : Option String) (name type : String)
    (outcome : Except Failure Answer) : (always server name type outcome : Rule τ).Constant := by
  intro a ha b hb
  rw [always, List.mem_singleton] at ha hb
  rw [ha, hb]

/-- Whenever the rule is used, it raises only failures of the exchange. -/
def Orderly (r : Rule τ) : Prop :=
  ∀ reply ∈ r.replies, ∀ e, reply.outcome = .error e → e.isAbsorbed = true

@[simp] theorem always_orderly (server : Option String) (name type : String)
    (outcome : Except Failure Answer) :
    (always server name type outcome : Rule τ).Orderly ↔
      ∀ e, outcome = .error e → e.isAbsorbed = true := by
  rw [Orderly, always, List.forall_mem_singleton]

end Rule

theorem takeReply_script {fits : Rule τ → Bool} {rules rest : List (Rule τ)} {reply : Reply τ}
    (h : takeReply fits rules = some (reply, rest)) :
    (∃ r ∈ rules, reply ∈ r.replies) ∧ rest.map Rule.script = rules.map Rule.script := by
  induction rules generalizing rest with
  | nil => simp [takeReply] at h
  | cons r rules ih =>
    rw [takeReply] at h
    split at h
    · obtain ⟨a, ha, he⟩ := Option.map_eq_some_iff.mp h
      cases he
      exact ⟨⟨r, by simp, Rule.reply?_mem ha⟩, by simp [Rule.script]⟩
    · obtain ⟨⟨a, more⟩, ha, he⟩ := Option.map_eq_some_iff.mp h
      cases he
      obtain ⟨⟨q, hq, hr⟩, hs⟩ := ih ha
      exact ⟨⟨q, by simp [hq], hr⟩, by simp [hs]⟩

def firstOutcome? (fits : Rule τ → Bool) (rules : List (Rule τ)) : Option (Except Failure Answer) :=
  (rules.find? fits).bind fun r => r.replies.head?.map Reply.outcome

theorem firstOutcome?_script (server : Option String) (call : Call τ) (rules : List (Rule τ)) :
    firstOutcome? (Rule.matchesCall server call) (rules.map Rule.script) =
      firstOutcome? (Rule.matchesCall server call) rules := by
  induction rules with
  | nil => rfl
  | cons r rest ih =>
    simp only [firstOutcome?, List.map_cons, List.find?_cons, Rule.matchesCall_script] at ih ⊢
    cases hr : Rule.matchesCall server call r with
    | false => exact ih
    | true => rfl

theorem Rule.Constant.reply? {r : Rule τ} (h : r.Constant) :
    r.reply?.map Reply.outcome = r.replies.head?.map Reply.outcome := by
  cases hr : r.reply? with
  | none =>
    have hl : r.replies.getLast? = none := by
      rw [Rule.reply?] at hr
      cases hd : (r.replies.drop r.uses).head? with
      | some first => simp [hd] at hr
      | none => simpa [hd] using hr
    simp [List.getLast?_eq_none_iff.mp hl]
  | some reply =>
    have hm := Rule.reply?_mem hr
    cases hh : r.replies.head? with
    | none => rw [List.head?_eq_none_iff.mp hh] at hm; simp at hm
    | some first => exact congrArg some (h reply hm first (List.mem_of_mem_head? hh))

theorem takeReply_outcome (fits : Rule τ → Bool) (rules : List (Rule τ))
    (h : ∀ r ∈ rules, r.Constant) :
    (takeReply fits rules).map (fun t => t.1.outcome) = firstOutcome? fits rules := by
  induction rules with
  | nil => rfl
  | cons r rest ih =>
    have hr := ih (fun q hq => h q (by simp [hq]))
    rw [takeReply]
    split
    next hf =>
      simp only [firstOutcome?, List.find?_cons, hf, Option.map_map, Option.bind_some]
      exact (h r (by simp)).reply?
    next hf =>
      simp only [Bool.not_eq_true] at hf
      simp only [firstOutcome?, List.find?_cons, hf, Option.map_map] at hr ⊢
      exact hr

theorem mem_addRule {rules : List (Rule τ)} {r s : Rule τ} (h : s ∈ addRule rules r) :
    s ∈ rules ∨ s = r := by
  induction rules with
  | nil => exact .inr (List.mem_singleton.mp h)
  | cons q rest ih =>
    rw [addRule] at h
    split at h
    · rcases List.mem_cons.mp h with h | h
      · exact .inr h
      · exact .inl (List.mem_cons_of_mem q h)
    · rcases List.mem_cons.mp h with h | h
      · exact .inl (h ▸ List.mem_cons_self)
      · exact (ih h).imp_left (List.mem_cons_of_mem q)

theorem mem_foldl_addRule {given rules : List (Rule τ)} {r : Rule τ}
    (h : r ∈ given.foldl addRule rules) : r ∈ rules ∨ r ∈ given := by
  induction given generalizing rules with
  | nil => exact .inl h
  | cons q rest ih =>
    rcases ih h with h | h
    · rcases mem_addRule h with h | h
      · exact .inl h
      · exact .inr (h ▸ List.mem_cons_self)
    · exact .inr (List.mem_cons_of_mem q h)

namespace Network

theorem mem_start {clock cost : τ} {rules : List (Rule τ)} {hosts : List (String × String)}
    {r : Rule τ} (h : r ∈ (start clock cost rules hosts).rules) : r ∈ rules :=
  (mem_foldl_addRule h).resolve_left (List.not_mem_nil)

theorem forall_start {P : Rule τ → Prop} {clock cost : τ} {rules : List (Rule τ)}
    {hosts : List (String × String)} (h : ∀ r ∈ rules, P r) :
    ∀ r ∈ (start clock cost rules hosts).rules, P r :=
  fun r hr => h r (mem_start hr)

theorem select_script {call : Call τ} {rules rest : List (Rule τ)} {reply : Reply τ}
    (h : select call rules = some (reply, rest)) :
    (∃ r ∈ rules, reply ∈ r.replies) ∧ rest.map Rule.script = rules.map Rule.script := by
  rw [select] at h
  split at h
  next t ht =>
    cases h
    exact takeReply_script ht
  next => exact takeReply_script h

theorem replies_of_script {P : List (Reply τ) → Prop} {v w : Network τ}
    (hs : v.rules.map Rule.script = w.rules.map Rule.script)
    (h : ∀ r ∈ w.rules, P r.replies) : ∀ r ∈ v.rules, P r.replies := by
  intro r hr
  have hm : r.script ∈ w.rules.map Rule.script := hs ▸ List.mem_map_of_mem hr
  obtain ⟨q, hq, he⟩ := List.mem_map.mp hm
  rw [← r.script_replies, ← he]
  exact h q hq

variable [Instant τ]

theorem Leads.script {v w : Network τ} (h : w.Leads v) :
    v.rules.map Rule.script = w.rules.map Rule.script := by
  induction h with
  | refl => rfl
  | note => assumption
  | wait => assumption
  | exchange call _ ih =>
    rw [← ih]
    rw [Network.exchange]
    dsimp only
    split
    · rfl
    next hs => exact (select_script hs).2

/-- A script that raises only failures of the exchange is orderly for ever. -/
theorem orderly_of_replies {w : Network τ} (h : ∀ r ∈ w.rules, r.Orderly) : w.Orderly := by
  intro v hv call e he
  have hr := replies_of_script hv.script
    (P := fun replies => ∀ reply ∈ replies, ∀ e, reply.outcome = .error e → e.isAbsorbed = true) h
  rw [answer, exchange] at he
  dsimp only at he
  split at he
  next => cases he; rfl
  next reply rest hs =>
    obtain ⟨r, hm, hin⟩ := (select_script hs).1
    exact hr r hm reply hin e he

theorem orderly_of_start {clock cost : τ} {rules : List (Rule τ)} {hosts : List (String × String)}
    (h : ∀ r ∈ rules, r.Orderly) : (start clock cost rules hosts).Orderly :=
  orderly_of_replies (forall_start h)

/-- The answer of a script whose rules are constant, from the rules alone. -/
theorem answer_of_constant {w : Network τ} (h : ∀ r ∈ w.rules, r.Constant) (call : Call τ) :
    w.answer call =
      ((firstOutcome? (Rule.matchesCall (some call.server) call) w.rules).orElse
        fun _ => firstOutcome? (Rule.matchesCall none call) w.rules).getD (.error .timedOut) := by
  rw [← takeReply_outcome _ _ h, ← takeReply_outcome _ _ h]
  rw [answer, exchange, select]
  cases takeReply (Rule.matchesCall (some call.server) call) w.rules with
  | some t => rfl
  | none => cases takeReply (Rule.matchesCall none call) w.rules <;> rfl

/-- A script that says the same whenever it is asked is steady. -/
theorem steady_of_constant {w : Network τ} (h : ∀ r ∈ w.rules, r.Constant) : w.Steady := by
  intro v hv call
  have hs := hv.script
  have hr : ∀ r ∈ v.rules, r.Constant := replies_of_script hs
    (P := fun replies => ∀ a ∈ replies, ∀ b ∈ replies, a.outcome = b.outcome) h
  rw [answer_of_constant hr, answer_of_constant h]
  simp only [← firstOutcome?_script _ _ v.rules, ← firstOutcome?_script _ _ w.rules, hs]

end Network

end DelegationAudit
