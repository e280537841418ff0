import DelegationAudit.Idna.Label
import DelegationAudit.Text.Octets

namespace DelegationAudit.Dns

open Text

abbrev Label := List Octet

/-- A length octet for each label, the octets of the label, and the empty label of the root. -/
def wireSize : List Label → Nat
  | [] => 1
  | l :: rest => l.length + 1 + wireSize rest

structure Name where
  labels : List Label
  label_bounds : ∀ l ∈ labels, 1 ≤ l.length ∧ l.length ≤ 63
  size_le : wireSize labels ≤ 255

inductive NameError
  | emptyLabel
  | labelTooLong
  | nameTooLong
  | badEscape
  | idna (fault : Idna.Fault)
  deriving DecidableEq, Repr

def NameError.message : NameError → String
  | emptyLabel => "A DNS label is empty."
  | labelTooLong => "A DNS label is > 63 octets long."
  | nameTooLong => "A DNS name is > 255 octets long."
  | badEscape => "An escaped code in a text format of DNS name is invalid."
  | idna fault => "IDNA processing exception: " ++ fault.message

def lowerOctet (b : Octet) : Octet := if 65 ≤ b && b ≤ 90 then b + 32 else b

def lowerLabel (l : Label) : Label := l.map lowerOctet

namespace Name

@[ext] theorem ext {a b : Name} (h : a.labels = b.labels) : a = b := by
  cases a; cases b; simp_all

instance : DecidableEq Name := fun a b =>
  if h : a.labels = b.labels then .isTrue (ext h) else .isFalse (fun e => h (e ▸ rfl))

def root : Name := ⟨[], by simp, by decide⟩

instance : Inhabited Name := ⟨root⟩

/-- The first of the two faults that a list of labels can have in length, then empty labels. -/
def ofLabels (labels : List Label) : Except NameError Name :=
  if h63 : ∀ l ∈ labels, l.length ≤ 63 then
    if h255 : wireSize labels ≤ 255 then
      if h1 : ∀ l ∈ labels, 1 ≤ l.length then
        .ok ⟨labels, fun l hl => ⟨h1 l hl, h63 l hl⟩, h255⟩
      else .error .emptyLabel
    else .error .nameTooLong
  else .error .labelTooLong

theorem ofLabels_labels (n : Name) : ofLabels n.labels = .ok n := by
  have h1 : ∀ l ∈ n.labels, 1 ≤ l.length := fun l hl => (n.label_bounds l hl).1
  have h63 : ∀ l ∈ n.labels, l.length ≤ 63 := fun l hl => (n.label_bounds l hl).2
  rw [ofLabels, dif_pos h63, dif_pos n.size_le, dif_pos h1]

theorem labels_of_ofLabels {labels : List Label} {n : Name} (h : ofLabels labels = .ok n) :
    n.labels = labels := by
  unfold ofLabels at h
  split at h
  · split at h
    · split at h
      · cases h; rfl
      · simp at h
    · simp at h
  · simp at h

/-- Without the leftmost label. The root is its own parent. -/
def parent (n : Name) : Name where
  labels := n.labels.tail
  label_bounds l hl := n.label_bounds l (List.mem_of_mem_tail hl)
  size_le := by
    have h := n.size_le
    cases hn : n.labels with
    | nil => simp [wireSize]
    | cons l rest =>
      rw [hn] at h
      simp only [wireSize, List.tail_cons] at h ⊢
      omega

/-- The labels with the letters of ASCII made small: names are equal for the DNS when these are. -/
def folded (n : Name) : List Label := n.labels.map lowerLabel

def same (a b : Name) : Bool := a.folded == b.folded

def labelWire (l : Label) : List Octet := UInt8.ofNat l.length :: l

def wire (n : Name) : List Octet := n.labels.flatMap labelWire ++ [0]

theorem length_labelWires (labels : List Label) :
    (labels.flatMap labelWire).length + 1 = wireSize labels := by
  induction labels with
  | nil => rfl
  | cons l rest ih =>
    simp only [List.flatMap_cons, List.length_append, labelWire, List.length_cons, wireSize]
    omega

theorem wire_length (n : Name) : n.wire.length = wireSize n.labels := by
  simpa [wire] using length_labelWires n.labels

end Name

end DelegationAudit.Dns
