import DelegationAudit.Failure
import DelegationAudit.Json.Basic

namespace DelegationAudit.Json

def typeName : Json → String
  | null => "NoneType"
  | bool _ => "bool"
  | int _ => "int"
  | real _ => "float"
  | str _ => "str"
  | arr _ => "list"
  | obj _ => "dict"

/-- Nothing, false, zero, and whatever holds nothing. -/
def isVoid : Json → Bool
  | null => true
  | bool b => !b
  | int n => n == 0
  | real s => s == "0.0" || s == "-0.0"
  | str s => s.isEmpty
  | arr items => items.isEmpty
  | obj fields => fields.isEmpty

def joinTexts (sep : String) (ss : List String) : String :=
  String.ofList (Text.joinWith sep.toList (ss.map String.toList))

mutual

def innerText : Json → String
  | null => "None"
  | bool true => "True"
  | bool false => "False"
  | int n => Number.intString n
  | real s => s
  | str s => Text.quote s
  | arr items => "[" ++ joinTexts ", " (innerTexts items) ++ "]"
  | obj fields => "\x7b" ++ joinTexts ", " (fieldTexts fields) ++ "\x7d"

def innerTexts : List Json → List String
  | [] => []
  | j :: rest => innerText j :: innerTexts rest

def fieldTexts : List (String × Json) → List String
  | [] => []
  | (k, v) :: rest => (Text.quote k ++ ": " ++ innerText v) :: fieldTexts rest

end

def text : Json → String
  | str s => s
  | j => innerText j

def badMember (j : Json) (member : String) : Failure :=
  .plain .missingMember ("'" ++ j.typeName ++ "' object has no attribute '" ++ member ++ "'")

def fields : Json → Except Failure (List (String × Json))
  | obj fs => .ok fs
  | j => .error (badMember j "get")

/-- What a value holds: items of a list, characters of a text, keys of an object. -/
def items : Json → Except Failure (List Json)
  | arr js => .ok js
  | str s => .ok (s.toList.map (fun c => str c.toString))
  | obj fs => .ok (fs.map (fun f => str f.1))
  | j => .error (.plain .typeMismatch ("'" ++ j.typeName ++ "' object is not iterable"))

def itemsOf (j : Option Json) : Except Failure (List Json) :=
  match j with
  | none => .ok []
  | some v => if v.isVoid then .ok [] else v.items

def fieldsOf (j : Option Json) : Except Failure (List (String × Json)) :=
  match j with
  | none => .ok []
  | some v => if v.isVoid then .ok [] else v.fields

def isKey : Json → Bool
  | arr _ | obj _ => false
  | _ => true

def notKey (j : Json) : Failure := .plain .typeMismatch ("unhashable type: '" ++ j.typeName ++ "'")

mutual

/-- Without the fields whose keys start as those of internal state do, at any depth. -/
def clean : Json → Json
  | arr items => arr (cleanItems items)
  | obj fields => obj (cleanFields fields)
  | j => j

def cleanItems : List Json → List Json
  | [] => []
  | j :: rest => clean j :: cleanItems rest

def cleanFields : List (String × Json) → List (String × Json)
  | [] => []
  | (k, v) :: rest =>
    if "_sa".isPrefixOf k then cleanFields rest else (k, clean v) :: cleanFields rest

end

end DelegationAudit.Json
