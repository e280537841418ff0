import DelegationAudit.Proofs.Assembly
import DelegationAudit.Response.Page

namespace DelegationAudit

namespace Json

@[simp] theorem fieldsOf_obj (fields : List (String × Json)) : fieldsOf (some (.obj fields)) = .ok fields := by
  cases fields <;> rfl

@[simp] theorem itemsOf_arr (items : List Json) : itemsOf (some (.arr items)) = .ok items := by
  cases items <;> rfl

theorem find?_map {α : Type} (key : String) (f : α → Json) (rows : List (String × α)) :
    find? key (rows.map fun row => (row.1, f row.2)) = (rows.lookup key).map f := by
  induction rows with
  | nil => rfl
  | cons row rows ih =>
    obtain ⟨k, value⟩ := row
    rw [List.map_cons, find?, List.lookup_cons, ih]
    by_cases h : k = key
    · simp [h]
    · have hne : (key == k) = false := beq_eq_false_iff_ne.mpr (Ne.symm h)
      simp [h, hne]

end Json

/-- A text that is given and not empty, or what stands in its place. -/
def shown (default : String) : Option String → String
  | none => default
  | some s => if s.isEmpty then default else s

/-- The mark behind an address whose network is known. -/
def Ownership.mark (o : Ownership) : String :=
  match o.asn with
  | none => ""
  | some n => " [AS" ++ Number.intString n ++ " " ++ shown "??" o.country ++ " " ++
      shown "" o.organization ++ "]"

namespace Nameserver

def addressText (ns : Nameserver) (a : Net.Address) : String :=
  match ns.ownerOf? a with
  | none => a.text
  | some o => a.text ++ o.mark

def pageLine (ns : Nameserver) : String :=
  "  NS " ++ ns.name ++ ": " ++
    shown "(no address)" (some (Json.joinTexts ", " (ns.addresses.map ns.addressText)))

end Nameserver

namespace Page

theorem joinItems_strs (index : Nat) (texts : List String) :
    joinItems index (texts.map .str) = .ok texts := by
  induction texts generalizing index with
  | nil => rfl
  | cons s texts ih =>
    rw [List.map_cons, joinItems, ih]
    rfl

theorem given_ofOption (key : String) (s : Option String) {fields : List (String × Json)}
    (h : Json.find? key fields = some (.ofOption s)) (default : String) :
    (given key fields).getD default = shown default s := by
  rw [given, h]
  cases s with
  | none => rfl
  | some s =>
    change (if s.isEmpty then none else some s).getD default = if s.isEmpty then default else s
    split <;> rfl

theorem attributed_mark (a : Net.Address) {o : Ownership} {n : Int} (hasn : o.asn = some n)
    {info : List (String × Json)} (hcountry : Json.find? "country" info = some (.ofOption o.country))
    (horganization : Json.find? "organization" info = some (.ofOption o.organization)) :
    attributed (.str a.text) (.int n) info = a.text ++ o.mark := by
  rw [attributed, given_ofOption "country" o.country hcountry,
    given_ofOption "organization" o.organization horganization, Ownership.mark, hasn]
  simp only [String.append_assoc]
  rfl

theorem addressItem_text (ns : Nameserver) (a : Net.Address) :
    addressItem (some ns.ownershipJson) (.str a.text) = .ok (.str (ns.addressText a)) := by
  rw [addressItem, Nameserver.ownershipJson, Json.fieldsOf_obj]
  simp only [bind, Except.bind, ownerOf, Json.find?_map]
  rw [Nameserver.addressText, Nameserver.ownerOf?]
  cases ns.ownership.lookup a.text with
  | none => rfl
  | some o =>
    cases hasn : o.asn with
    | none =>
      simp only [Option.map_some, Ownership.toJson, hasn, Ownership.mark, String.append_empty]
      rfl
    | some n =>
      obtain ⟨info, hinfo, hvoid, hnumber, hcountry, horganization⟩ : ∃ info, o.toJson = .obj info ∧
          (Json.obj info).isVoid = false ∧ Json.find? "asn" info = some (.int n) ∧
          Json.find? "country" info = some (.ofOption o.country) ∧
          Json.find? "organization" info = some (.ofOption o.organization) := by
        refine ⟨_, rfl, rfl, ?_, rfl, rfl⟩
        simp [Json.find?, hasn]
      have hopen : (Json.obj info).fields = .ok info := rfl
      rw [Option.map_some, hinfo]
      dsimp only
      rw [hvoid, if_neg Bool.false_ne_true, hopen]
      dsimp only
      rw [hnumber]
      dsimp only
      rw [attributed_mark a hasn hcountry horganization]
      rfl

theorem nameserverLine_text (ns : Nameserver) : nameserverLine ns.toJson = .ok ns.pageLine := by
  have hitems : (ns.addresses.map fun a => Json.str a.text).mapM (addressItem (some ns.ownershipJson)) =
      .ok ((ns.addresses.map ns.addressText).map .str) := by
    rw [mapM_eq_ok_iff, List.map_map, List.map_map, List.map_map]
    exact List.map_congr_left fun a _ => addressItem_text ns a
  have hfields : ns.toJson.fields = .ok [("name", .str ns.name),
    ("addresses", .strings (ns.addresses.map Net.Address.text)), ("ownership", ns.ownershipJson)] := rfl
  have haddresses : Json.itemsOf (some (.strings (ns.addresses.map Net.Address.text))) =
      .ok (ns.addresses.map fun a => .str a.text) := by
    rw [Json.strings, Json.itemsOf_arr, List.map_map]
    rfl
  have hfound : Json.find? "addresses" [("name", .str ns.name),
      ("addresses", .strings (ns.addresses.map Net.Address.text)), ("ownership", ns.ownershipJson)] =
      some (.strings (ns.addresses.map Net.Address.text)) := rfl
  have howners : Json.find? "ownership" [("name", .str ns.name),
      ("addresses", .strings (ns.addresses.map Net.Address.text)), ("ownership", ns.ownershipJson)] =
      some ns.ownershipJson := rfl
  rw [nameserverLine, hfields]
  simp only [bind, Except.bind, hfound, howners, haddresses, hitems, joinItems_strs]
  rfl

theorem mapM_nameserverLine (nameservers : List Nameserver) :
    (nameservers.map Nameserver.toJson).mapM nameserverLine =
      .ok (nameservers.map Nameserver.pageLine) := by
  rw [mapM_eq_ok_iff, List.map_map, List.map_map]
  exact List.map_congr_left fun ns _ => nameserverLine_text ns

theorem findingLines_ok (fields : List (String × Json)) : ∃ lines, findingLines (.obj fields) = .ok lines := by
  have hopen : (Json.obj fields).fields = .ok fields := rfl
  rw [findingLines, hopen]
  simp only [bind, Except.bind]
  cases given "recommendation" fields with
  | none => exact ⟨_, rfl⟩
  | some advice => exact ⟨_, rfl⟩

/-- A response with one report among its checks can be printed. -/
theorem text_ok (response : Response) {r : Report}
    (h : Json.find? "delegation" response.checks = some (.obj r.toJson)) :
    ∃ page, text response.toJson = .ok page := by
  have hchecks : Json.find? "checks" response.toJson = some (.obj response.checks) := rfl
  have hsummary : Json.find? "summary" response.toJson = some (.obj response.summary) := rfl
  have hfindings : Json.find? "findings" response.toJson = some (.arr (response.findings.map .obj)) := rfl
  have hnameservers : Json.find? "nameservers" r.toJson =
      some (.arr (r.nameservers.map Nameserver.toJson)) := rfl
  obtain ⟨told, htold⟩ : ∃ told, (response.findings.map Json.obj).mapM findingLines = .ok told := by
    rw [exists_mapM_eq_ok_iff]
    intro j hj
    obtain ⟨fields, -, rfl⟩ := List.mem_map.mp hj
    exact findingLines_ok fields
  rw [text, lines]
  simp only [bind, Except.bind, hchecks, hsummary, hfindings, hnameservers, h, Json.fieldsOf_obj,
    Json.itemsOf_arr, mapM_nameserverLine, htold]
  exact ⟨_, rfl⟩

end Page

end DelegationAudit
