import DelegationAudit.Audit.Finding

namespace DelegationAudit

def noAdvice : String := "No recommendation available for this issue yet."

def Issue.advice : Issue → String
  | noNameservers =>
    "The zone has no resolvable NS RRset. Confirm the domain is registered and that the parent zone " ++
    "delegates it to nameservers that answer for it."
  | singleNameserver =>
    "Only one nameserver is delegated. Add at least one more nameserver, ideally operated on a " ++
    "different network, so the zone stays resolvable when one server is down."
  | noAddress =>
    "A delegated nameserver name has no A/AAAA records. Fix the nameserver hostname (or its glue) or " ++
    "remove it from the delegation; resolvers waste time on unreachable names."
  | sameSubnet =>
    "Every nameserver address sits in the same /24. Redundancy is illusory: one routing or upstream " ++
    "failure takes all of them out. Move at least one nameserver to a different network."
  | singleNetwork =>
    "All nameserver addresses are announced by one autonomous system. Consider a secondary DNS " ++
    "provider on a different network to survive an outage of that operator."
  | privateAddress =>
    "A nameserver publishes an RFC 1918 address (10/8, 172.16/12, 192.168/16). Public delegations " ++
    "must only point at globally routable addresses; fix the A record or the glue at the parent."
  | checkFailed =>
    "A nameserver did not answer a direct query correctly (timeout, REFUSED, SERVFAIL...). Check that it " ++
    "is reachable on port 53 over UDP and TCP and is configured to serve the zone."
  | inconsistent =>
    "The NS RRset served by this nameserver differs from the delegation. Keep the NS records in the zone " ++
    "and at the parent in sync."
  | deadline =>
    "The audit ran out of time before every nameserver was checked, so the report is incomplete. Usually " ++
    "a sign of several unreachable nameservers; fix those, or raise NSAUDIT_DEADLINE / --deadline."
  | other _ => noAdvice

def adviceOn (issue : String) : String := (Issue.ofText issue).advice

end DelegationAudit
