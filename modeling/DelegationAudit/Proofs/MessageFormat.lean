import DelegationAudit.Dns.Rdata.Wire
import DelegationAudit.Lookup
import DelegationAudit.Proofs.Outcomes

namespace DelegationAudit.Dns

open Text

/-- A reader takes octets off the front of what is left, or fails. -/
abbrev Reader := StateT Cursor (Except DataFault)

structure Question where
  name : Name
  type : Nat
  network : Nat
  deriving DecidableEq

/-- A record as it stands in a message, its data not looked into. -/
structure Entry where
  owner : Name
  type : Nat
  network : Nat
  ttl : Nat
  data : List Octet
  deriving DecidableEq

structure Message where
  id : Nat
  flags : Nat
  questions : List Question
  answers : List Entry
  authorities : List Entry
  additional : List Entry
  deriving DecidableEq

namespace Reader

def number (width : Nat) : Reader Nat := fun c => c.number width

def octets (count : Nat) : Reader (List Octet) := fun c => c.octets count

def name : Reader Name := Cursor.name

def question : Reader Question := do
  let name ← name
  let type ← number 2
  let network ← number 2
  return ⟨name, type, network⟩

def entry : Reader Entry := do
  let owner ← name
  let type ← number 2
  let network ← number 2
  let ttl ← number 4
  let length ← number 2
  let data ← octets length
  return ⟨owner, type, network, ttl, data⟩

def times {α : Type} (read : Reader α) : Nat → Reader (List α)
  | 0 => return []
  | count + 1 => do
    let first ← read
    let rest ← times read count
    return first :: rest

def message : Reader Message := do
  let id ← number 2
  let flags ← number 2
  let questions ← number 2
  let answers ← number 2
  let authorities ← number 2
  let additional ← number 2
  return {
    id := id
    flags := flags
    questions := ← question.times questions
    answers := ← entry.times answers
    authorities := ← entry.times authorities
    additional := ← entry.times additional }

end Reader

def Message.read (data : List Octet) : Except DataFault Message := do
  let (m, c) ← Reader.message (Cursor.start data)
  c.finish
  return m

namespace Cursor

/-- What has not been read yet. -/
def ahead (c : Cursor) : List Octet := c.data.drop c.position

def advance (count : Nat) (c : Cursor) : Cursor := { c with position := c.position + count }

theorem ahead_advance {c : Cursor} {s rest : List Octet} (h : c.ahead = s ++ rest) :
    (c.advance s.length).ahead = rest := by
  rw [ahead] at h
  rw [ahead, advance, ← List.drop_drop, h, List.drop_left]

end Cursor

namespace Reader

variable {α β : Type}

/-- In front of anything, these octets are read as this value, and nothing behind them is touched. -/
def Reads (read : Reader α) (s : List Octet) (a : α) : Prop :=
  ∀ c rest, c.ahead = s ++ rest → read c = .ok (a, c.advance s.length)

theorem Reads.pure (a : α) : Reads (pure a) [] a := fun _ _ _ => rfl

theorem Reads.bind {read : Reader α} {next : α → Reader β} {s t : List Octet} {a : α} {b : β}
    (h : read.Reads s a) (hnext : (next a).Reads t b) : Reads (read >>= next) (s ++ t) b := by
  intro c rest hc
  rw [List.append_assoc] at hc
  have hfirst : read c = .ok (a, c.advance s.length) := h c (t ++ rest) hc
  have hsecond : next a (c.advance s.length) = .ok (b, (c.advance s.length).advance t.length) :=
    hnext _ rest (Cursor.ahead_advance hc)
  have hboth : (read >>= next) c = (read c >>= fun p => next p.1 p.2) := rfl
  rw [hboth, hfirst]
  change next a (c.advance s.length) = _
  rw [hsecond, Cursor.advance, Cursor.advance, Cursor.advance, List.length_append, Nat.add_assoc]

theorem Reads.octets (s : List Octet) : (Reader.octets s.length).Reads s s := by
  intro c rest hc
  rw [Cursor.ahead] at hc
  have hlong : ¬ (s ++ rest).length < s.length := by
    rw [List.length_append]
    omega
  rw [Reader.octets, Cursor.octets, hc, if_neg hlong, List.take_left, Cursor.advance]

theorem Reads.number {width n : Nat} {s : List Octet} (hlength : s.length = width)
    (hvalue : numberOf s = n) : (Reader.number width).Reads s n := by
  intro c rest hc
  have hs : c.octets s.length = .ok (s, c.advance s.length) := Reads.octets s c rest hc
  rw [Reader.number, Cursor.number, ← hlength, hs, ← hvalue]
  rfl

theorem numberOf_word {n : Nat} (h : n < 65536) : numberOf (Query.word n) = n := by
  have hhigh : (UInt8.ofNat (n / 256)).toNat = n / 256 := by
    rw [UInt8.toNat_ofNat', Nat.mod_eq_of_lt]
    omega
  have hlow : (UInt8.ofNat (n % 256)).toNat = n % 256 := by
    rw [UInt8.toNat_ofNat', Nat.mod_eq_of_lt]
    omega
  simp only [numberOf, Query.word, Net.fromDigits, List.map_cons, List.map_nil, List.foldl_cons,
    List.foldl_nil, hhigh, hlow]
  omega

theorem Reads.word {n : Nat} (h : n < 65536) : (Reader.number 2).Reads (Query.word n) n :=
  Reads.number rfl (numberOf_word h)

/-- Labels that are written out are walked one by one, up to the empty label behind them. -/
theorem walk_labels {data tail : List Octet} {labels : List Label}
    (hbounds : ∀ l ∈ labels, 1 ≤ l.length ∧ l.length ≤ 63) {bound reached jumps position : Nat}
    (hreached : reached ≤ position)
    (hdata : data.drop position = labels.flatMap Name.labelWire ++ [0] ++ tail) :
    walk data bound reached jumps position = .ok ⟨labels, position + wireSize labels, jumps⟩ := by
  induction labels generalizing reached position with
  | nil =>
    rw [walk.eq_def]
    split
    next he =>
      rw [he] at hdata
      cases hdata
    next b rest he =>
      rw [he] at hdata
      cases hdata
      have hfurther : further reached (position + 1) = position + 1 := if_pos (by omega)
      dsimp only
      rw [hfurther]
      rfl
  | cons l labels ih =>
    obtain ⟨hone, hmany⟩ := hbounds l (by simp)
    have hlength : (UInt8.ofNat l.length).toNat = l.length := by
      rw [UInt8.toNat_ofNat', Nat.mod_eq_of_lt]
      omega
    generalize hmore : labels.flatMap Name.labelWire ++ [0] ++ tail = more at ih
    have hhere : data.drop position = UInt8.ofNat l.length :: (l ++ more) := by
      rw [hdata, ← hmore]
      simp [Name.labelWire]
    have hnext : data.drop (position + 1 + l.length) = more := by
      rw [Nat.add_assoc, ← List.drop_drop, hhere, Nat.add_comm, List.drop_succ_cons, List.drop_left]
    have hfurther : further reached (position + 1 + l.length) = position + 1 + l.length :=
      if_pos (by omega)
    have hrest := ih (fun m hm => hbounds m (by simp [hm])) (Nat.le_refl _) hnext
    have hend : position + 1 + l.length + wireSize labels = position + wireSize (l :: labels) := by
      rw [wireSize]
      omega
    rw [walk.eq_def]
    split
    next he => cases hhere.symm.trans he
    next b rest he =>
      cases hhere.symm.trans he
      have hzero : (l.length == 0) = false := beq_eq_false_iff_ne.mpr (by omega)
      have hshort : l.length < 64 := by omega
      have henough : ¬ (l ++ more).length < l.length := by
        rw [List.length_append]
        omega
      dsimp only
      rw [hlength, hzero, if_neg Bool.false_ne_true, if_pos hshort, if_neg henough, hfurther, hrest,
        List.take_left, hend]
      rfl

theorem Reads.name (n : Name) : Reader.name.Reads n.wire n := by
  intro c rest hc
  have hwalk : walk c.data c.position c.position 0 c.position =
      .ok ⟨n.labels, c.position + wireSize n.labels, 0⟩ :=
    walk_labels n.label_bounds (Nat.le_refl _) hc
  have hlabels := Name.ofLabels_labels n
  rw [Reader.name, Cursor.name, hwalk]
  dsimp only
  rw [hlabels, Cursor.advance, n.wire_length]
  simp

theorem Reads.question (n : Name) {type network : Nat} (htype : type < 65536) (hnetwork : network < 65536) :
    Reader.question.Reads (n.wire ++ Query.word type ++ Query.word network) ⟨n, type, network⟩ := by
  rw [List.append_assoc, ← List.append_nil (Query.word network)]
  exact (Reads.name n).bind ((Reads.word htype).bind ((Reads.word hnetwork).bind (.pure _)))

def extensionEntry : Entry := ⟨Name.root, Query.typeExtension, 4096, 0x8000, []⟩

theorem Reads.extension {q : Query} (h : q.secure = true) :
    Reader.entry.Reads q.extensionWire extensionEntry := by
  have hwire : q.extensionWire = Name.root.wire ++ (Query.word Query.typeExtension ++
      (Query.word 4096 ++ ((Query.word 0 ++ Query.word 0x8000) ++ (Query.word 0 ++ ([] ++ []))))) := by
    rw [Query.extensionWire, Query.payload, Query.extensionFlags, if_pos h, if_pos h, if_pos h]
    rfl
  have hlife : (Reader.number 4).Reads (Query.word 0 ++ Query.word 0x8000) 0x8000 :=
    Reads.number rfl (by decide)
  rw [hwire]
  exact (Reads.name Name.root).bind ((Reads.word (by decide)).bind ((Reads.word (by decide)).bind
    (hlife.bind ((Reads.word (by decide)).bind ((Reads.octets []).bind (.pure _))))))

theorem Reads.times {read : Reader α} {items : List (List Octet × α)}
    (h : ∀ i ∈ items, read.Reads i.1 i.2) :
    (read.times items.length).Reads (items.flatMap Prod.fst) (items.map Prod.snd) := by
  induction items with
  | nil => exact .pure []
  | cons i items ih =>
    have hrest := ih fun j hj => h j (by simp [hj])
    rw [List.flatMap_cons, ← List.append_nil (items.flatMap Prod.fst)]
    exact (h i (by simp)).bind (hrest.bind (.pure _))

theorem Reads.once {read : Reader α} {s : List Octet} {a : α} (h : read.Reads s a) :
    (read.times 1).Reads s [a] := by
  have hmember : ∀ i ∈ [(s, a)], read.Reads i.1 i.2 := List.forall_mem_singleton.mpr h
  have hone := Reads.times hmember
  rwa [List.flatMap_singleton] at hone

end Reader

def Query.message (q : Query) : Message where
  id := 0
  flags := q.flags
  questions := [⟨q.name, q.type.code.toNat, classInternet⟩]
  answers := []
  authorities := []
  additional := if q.secure then [Reader.extensionEntry] else []

open Reader in
theorem Query.reads_wire (q : Query) : Reader.message.Reads q.wire q.message := by
  have hflags : q.flags < 65536 := by
    rw [flags]
    split <;> decide
  have hquestion := Reads.question q.name q.type.code.toNat_lt (by decide : classInternet < 65536)
  have hnone : (Reader.entry.times 0).Reads [] [] := .pure []
  have hcount : (if q.secure then 1 else 0) < 65536 := by split <;> decide
  have hadditional : (Reader.entry.times (if q.secure then 1 else 0)).Reads q.extensionWire
      (if q.secure then [extensionEntry] else []) := by
    cases hs : q.secure with
    | true => exact (Reads.extension hs).once
    | false =>
      rw [extensionWire, hs]
      exact hnone
  have hwire : q.wire = word 0 ++ (word q.flags ++ (word 1 ++ (word 0 ++ (word 0 ++
      (word (if q.secure then 1 else 0) ++ ((q.name.wire ++ word q.type.code.toNat ++
        word classInternet) ++ ([] ++ ([] ++ (q.extensionWire ++ []))))))))) := by
    simp [wire, header]
  rw [hwire]
  exact (Reads.word (by decide)).bind ((Reads.word hflags).bind ((Reads.word (by decide)).bind
    ((Reads.word (by decide)).bind ((Reads.word (by decide)).bind ((Reads.word hcount).bind
      (hquestion.once.bind (hnone.bind (hnone.bind (hadditional.bind (.pure _))))))))))

/-- What a query is written as is read back as its message. -/
theorem Message.read_wire (q : Query) : read q.wire = .ok q.message := by
  have hstart : (Cursor.start q.wire).ahead = q.wire ++ [] := (List.append_nil _).symm
  have hread := q.reads_wire (Cursor.start q.wire) [] hstart
  have hend : ((Cursor.start q.wire).advance q.wire.length).finish = .ok () := by
    simp [Cursor.finish, Cursor.advance, Cursor.start]
  rw [read, hread]
  change (((Cursor.start q.wire).advance q.wire.length).finish >>= fun _ => _) = _
  rw [hend]
  rfl

/-- What the record of the extension says in the places of a class and of a time to live. -/
structure Extension where
  payload : Nat
  code : Nat
  version : Nat
  secure : Bool
  reserved : Nat
  deriving DecidableEq

def Entry.extension? (e : Entry) : Option Extension :=
  if e.owner = Name.root ∧ e.type = Query.typeExtension then
    some ⟨e.network, e.ttl / 0x1000000, e.ttl / 0x10000 % 0x100, e.ttl.testBit 15, e.ttl % 0x8000⟩
  else none

/-- A message that asks for the records of one type under one name, with or without signatures, and says
nothing else. -/
structure Message.Asks (m : Message) (labels : List Label) (type : Nat) (secure : Bool) : Prop where
  id : m.id = 0
  question : ∃ name, name.labels = labels ∧ m.questions = [⟨name, type, Query.classInternet⟩]
  answers : m.answers = []
  authorities : m.authorities = []
  recursion : m.flags.testBit 8 = true
  checking : m.flags.testBit 4 = true ↔ secure = false
  otherFlags : ∀ bit < 16, m.flags.testBit bit = true → bit = 8 ∨ bit = 4
  extended : secure = true → ∃ e, m.additional = [e] ∧
    e.extension? = some ⟨4096, 0, 0, true, 0⟩ ∧ e.data = []
  plain : secure = false → m.additional = []

theorem Message.Asks.unique {m : Message} {labels labels' : List Label} {type type' : Nat}
    {secure secure' : Bool} (h : m.Asks labels type secure) (h' : m.Asks labels' type' secure') :
    labels = labels' ∧ type = type' ∧ secure = secure' := by
  obtain ⟨name, rfl, hquestion⟩ := h.question
  obtain ⟨name', rfl, hquestion'⟩ := h'.question
  rw [hquestion, List.cons.injEq, Question.mk.injEq] at hquestion'
  obtain ⟨⟨hname, htype, -⟩, -⟩ := hquestion'
  have hsecure : secure = false ↔ secure' = false := h.checking.symm.trans h'.checking
  refine ⟨congrArg Name.labels hname, htype, ?_⟩
  cases secure <;> cases secure' <;> simp_all

theorem Query.message_asks (q : Query) : q.message.Asks q.name.labels q.type.code.toNat q.secure := by
  have hrecursion : ∀ secure : Bool, (if secure then 0x100 else 0x110 : Nat).testBit 8 = true := by decide
  have hchecking : ∀ secure : Bool,
      (if secure then 0x100 else 0x110 : Nat).testBit 4 = true ↔ secure = false := by decide
  have hother : ∀ secure : Bool, ∀ bit < 16,
      (if secure then 0x100 else 0x110 : Nat).testBit bit = true → bit = 8 ∨ bit = 4 := by decide
  have hmessage : q.message = ⟨0, if q.secure then 0x100 else 0x110,
      [⟨q.name, q.type.code.toNat, classInternet⟩], [], [],
      if q.secure then [Reader.extensionEntry] else []⟩ := by
    rw [message, flags]
    cases q.secure <;> rfl
  rw [hmessage]
  refine ⟨rfl, ⟨q.name, rfl, rfl⟩, rfl, rfl, ?_, ?_, ?_, ?_, ?_⟩
  · exact hrecursion q.secure
  · exact hchecking q.secure
  · exact hother q.secure
  · intro h
    rw [h]
    exact ⟨Reader.extensionEntry, rfl, by decide, rfl⟩
  · intro h
    rw [h]
    rfl

/-- Two queries have one message just when they are one query. -/
theorem Query.wire_inj {q q' : Query} : q.wire = q'.wire ↔ q = q' := by
  constructor
  · intro h
    have hread := Message.read_wire q
    rw [h, Message.read_wire q', Except.ok.injEq] at hread
    have hasks := q'.message_asks
    rw [hread] at hasks
    obtain ⟨hlabels, htype, hsecure⟩ := q.message_asks.unique hasks
    obtain ⟨name, ⟨code⟩, secure⟩ := q
    obtain ⟨name', ⟨code'⟩, secure'⟩ := q'
    rw [Query.mk.injEq, RecordType.mk.injEq]
    exact ⟨Name.ext hlabels, UInt16.toNat_inj.mp htype, hsecure⟩
  · rintro rfl
    rfl

end DelegationAudit.Dns

namespace DelegationAudit

open Dns

theorem buildQuery_eq_ok {text : String} {type : RecordType} {secure : Bool} {q : Query} :
    buildQuery text type secure = .ok q ↔ ∃ n, Name.read text = .ok n ∧ q = ⟨n, type, secure⟩ := by
  rw [buildQuery]
  cases Name.read text with
  | error e => simp
  | ok n => simp [eq_comm]

/-- The message for a question reads as exactly that question, the letters of the name as they were
written, and a message for another name, type or kind of query is another message. -/
theorem buildQuery_asks {text : String} {n : Name} (h : Name.read text = .ok n) {number : Int}
    (hnumber : 0 ≤ number ∧ number ≤ 65535) (secure : Bool) :
    ∃ type q m, RecordType.ofInt? number = some type ∧ buildQuery text type secure = .ok q ∧
      Message.read q.wire = .ok m ∧ m.Asks n.labels number.toNat secure ∧
      ∀ text' type' secure' q', buildQuery text' type' secure' = .ok q' →
        (q'.wire = q.wire ↔ Name.read text' = .ok n ∧ type' = type ∧ secure' = secure) := by
  have htype : RecordType.ofInt? number = some ⟨UInt16.ofNat number.toNat⟩ := by
    simp [RecordType.ofInt?, hnumber]
  have hcode : (UInt16.ofNat number.toNat).toNat = number.toNat := by
    rw [UInt16.toNat_ofNat', Nat.mod_eq_of_lt]
    omega
  have hasks := (⟨n, ⟨UInt16.ofNat number.toNat⟩, secure⟩ : Query).message_asks
  dsimp only at hasks
  rw [hcode] at hasks
  refine ⟨_, _, _, htype, buildQuery_eq_ok.mpr ⟨n, h, rfl⟩, Message.read_wire _, hasks, ?_⟩
  intro text' type' secure' q' hq'
  obtain ⟨n', hn', rfl⟩ := buildQuery_eq_ok.mp hq'
  rw [Query.wire_inj, Query.mk.injEq, hn', Except.ok.injEq]

/-- A name with a dot inside a label, an octet beyond ASCII and a capital letter; with a small letter in
its place the message is another one. -/
theorem buildQuery_asks_capital :
    ∃ n type q m, Name.read "a\\.B\\200.example" = .ok n ∧
      n.labels = [[97, 46, 66, 200], [101, 120, 97, 109, 112, 108, 101]] ∧
      buildQuery "a\\.B\\200.example" type true = .ok q ∧ Message.read q.wire = .ok m ∧
      m.Asks n.labels 65535 true ∧
      ∀ q', buildQuery "a\\.b\\200.example" type true = .ok q' → q'.wire ≠ q.wire := by
  have hlabels : (Name.read "a\\.B\\200.example").toOption.map Name.labels =
      some [[97, 46, 66, 200], [101, 120, 97, 109, 112, 108, 101]] := by decide +kernel
  have hsmall : (Name.read "a\\.b\\200.example").toOption.map Name.labels =
      some [[97, 46, 98, 200], [101, 120, 97, 109, 112, 108, 101]] := by decide +kernel
  obtain ⟨n, hn, hn_labels⟩ := exists_of_map_toOption hlabels
  obtain ⟨n', hn', hn'_labels⟩ := exists_of_map_toOption hsmall
  obtain ⟨type, q, m, -, hq, hm, hasks, hother⟩ :=
    buildQuery_asks hn (by decide : (0 : Int) ≤ 65535 ∧ (65535 : Int) ≤ 65535) true
  refine ⟨n, type, q, m, hn, hn_labels, hq, hm, hasks, fun q' hq' hwire => ?_⟩
  obtain ⟨hsame, -, -⟩ := (hother _ _ _ q' hq').mp hwire
  cases hn'.symm.trans hsame
  rw [hn_labels] at hn'_labels
  exact absurd hn'_labels (by decide)

end DelegationAudit
