import DelegationAudit.Network

namespace DelegationAudit

structure Settings (τ : Type) where
  resolver : String
  /-- The port of the resolver; nameservers are always asked on the usual one. -/
  port : Int
  timeout : τ
  deadline : τ
  enrich : Bool
  probe : Bool
  lifetime : τ
  logLevel : String

def defaultResolver : String := "8.8.8.8"

namespace Settings

def default : Settings Float where
  resolver := defaultResolver
  port := 53
  timeout := 2
  deadline := 60
  enrich := true
  probe := true
  lifetime := 3600
  logLevel := "info"

end Settings

end DelegationAudit
