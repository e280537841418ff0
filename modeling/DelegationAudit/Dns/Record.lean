import DelegationAudit.Dns.Rdata
import DelegationAudit.Text.Case

namespace DelegationAudit.Dns

open Text

structure RecordSet where
  name : Name
  ttl : Int
  data : List Rdata

/-- Adds a datum unless an equal one is there; a type of single records keeps the newest. -/
def addDatum (data : List Rdata) (d : Rdata) : List Rdata :=
  if Rdata.isSingleton d.type then [d]
  else if data.any (·.same d) then data
  else data ++ [d]

def RecordSet.ofList (name : Name) (ttl : Int) (data : List Rdata) : RecordSet :=
  ⟨name, ttl, data.foldl addDatum []⟩

structure Record where
  owner : Name
  ttl : Int
  data : Rdata
  deriving DecidableEq

namespace Record

def type (r : Record) : RecordType := r.data.type

/-- What merging compares: owner, type and data, the texts in small letters. -/
def key (r : Record) : List Char × RecordType × List Char :=
  (lower r.owner.chars, r.type, lower r.data.chars)

end Record

def RecordSet.records (s : RecordSet) : List Record := s.data.map (fun d => ⟨s.name, s.ttl, d⟩)

def recordsOf (answer : List RecordSet) : List Record := answer.flatMap RecordSet.records

def filterByType (types : List RecordType) (records : List Record) : List Record :=
  records.filter (fun r => types.contains r.type)

def mergeFrom (seen : List (List Char × RecordType × List Char)) : List Record → List Record
  | [] => []
  | r :: rest =>
    if seen.contains r.key then mergeFrom seen rest else r :: mergeFrom (r.key :: seen) rest

/-- The first record of each key, in the order of the lists. -/
def merge (lists : List (List Record)) : List Record := mergeFrom [] lists.flatten

def addressOf? (r : Record) : Option Net.Address :=
  match r.data with
  | .a address => some (.v4 address)
  | .aaaa value => some (.v6 ⟨value, none⟩)
  | _ => none

def addressesOf (records : List Record) : List Net.Address := records.filterMap addressOf?

def targetOf? (r : Record) : Option Name :=
  match r.data with
  | .ns target => some target
  | _ => none

def targetsOf (records : List Record) : List String :=
  (records.filterMap targetOf?).map Name.text

end DelegationAudit.Dns
