import DelegationAudit.Proofs.Arguments
import DelegationAudit.Proofs.Outcomes
import DelegationAudit.Proofs.ZoneGate
import DelegationAudit.Web

namespace DelegationAudit

theorem Network.resolveHost_resolveHost {τ : Type} {w : Network τ}
    (hw : ∀ host address, w.hosts.lookup host = some address → w.resolveHost address = address)
    (host : String) : w.resolveHost (w.resolveHost host) = w.resolveHost host := by
  cases h : w.hosts.lookup host with
  | none =>
    have hself : w.resolveHost host = host := by rw [resolveHost, h]; rfl
    rw [hself, hself]
  | some address =>
    have haddress : w.resolveHost host = address := by rw [resolveHost, h]; rfl
    rw [haddress, hw host address h]

namespace Settings

theorem fromEnvironment_resolver {env : Environment} {w : Network Float} {settings : Settings Float}
    (h : fromEnvironment env w = .ok settings) :
    settings.resolver = w.resolveHost (env.getD "NSAUDIT_RESOLVER" defaultResolver) := by
  rw [fromEnvironment] at h
  obtain ⟨port, -, h⟩ := bind_eq_ok.mp h
  obtain ⟨timeout, -, h⟩ := bind_eq_ok.mp h
  obtain ⟨deadline, -, h⟩ := bind_eq_ok.mp h
  obtain ⟨lifetime, -, h⟩ := bind_eq_ok.mp h
  cases h
  rfl

/-- The settings with those that the command line sets by itself. -/
def settled (settings : Settings Float) : Settings Float :=
  { settings with enrich := true, probe := true, lifetime := CommandLine.usualLifetime }

theorem settled_eq_self {settings : Settings Float} (he : settings.enrich = true)
    (hp : settings.probe = true) (hl : settings.lifetime = CommandLine.usualLifetime) :
    settings.settled = settings := by
  cases settings
  dsimp only at he hp hl
  subst he hp hl
  rfl

end Settings

namespace CommandLine

theorem read_zone (settings : Settings Float) {zone : String} (h : zone.toList.head? ≠ some '-') :
    read settings [zone, "--json"] =
      .ok { Options.ofSettings settings with zones := [zone], json := true } := by
  have hread : read settings ([zone] ++ [Flag.json].map Flag.word) =
      .ok (({ Options.ofSettings settings with zones := [zone] } : Options).switched [.json]) :=
    read_zones (by simpa using h) (by decide) (List.cons_ne_nil zone []) settings
  exact hread

theorem run_zone {env : Environment} {w : Network Float} {settings : Settings Float}
    (hs : Settings.fromEnvironment env w = .ok settings)
    (hw : ∀ host address, w.hosts.lookup host = some address → w.resolveHost address = address)
    {zone accepted : String} (hz : Zone.accept zone = .ok accepted) :
    run env [zone, "--json"] w = audit { Options.ofSettings settings with zones := [zone], json := true }
      settings.settled [accepted] w := by
  have hhead : zone.toList.head? ≠ some '-' := by
    intro h
    obtain ⟨rest, hrest⟩ := List.head?_eq_some_iff.mp h
    have hchars := Zone.accept_eq_ok.mp hz
    rw [hrest] at hchars
    exact Zone.acceptChars_hyphen rest _ hchars
  have hgate : gate [zone] = .accepted [accepted] := by
    rw [gate, hz]
    rfl
  have hresolver : w.resolveHost settings.resolver = settings.resolver := by
    rw [Settings.fromEnvironment_resolver hs, Network.resolveHost_resolveHost hw]
  have hsettings : settingsOf { Options.ofSettings settings with zones := [zone], json := true } w =
      .ok settings.settled := by
    have hresolved : settingsOf { Options.ofSettings settings with zones := [zone], json := true } w =
        .ok { settings.settled with resolver := w.resolveHost settings.resolver } := rfl
    rw [hresolved, hresolver]
    rfl
  rw [run, hs]
  dsimp only
  rw [read_zone settings hhead]
  dsimp only
  rw [hgate]
  dsimp only
  rw [hsettings]

theorem audit_single {o : Options} (ho : o.json = true) (settings : Settings Float) (zone : String)
    (w : Network Float) :
    (audit o settings [zone] w).exit = (respond settings "cli" zone ⟨w, []⟩).1.map (fun _ => 0) ∧
      (∀ r, (respond settings "cli" zone ⟨w, []⟩).1 = .ok r →
        (audit o settings [zone] w).output =
          (Json.obj [("targets", .strings [zone]), ("results", .arr [.obj r.toJson])]).indented ++ "\n") ∧
      (audit o settings [zone] w).network = (respond settings "cli" zone ⟨w, []⟩).2.network := by
  rw [audit, respondAll]
  generalize respond settings "cli" zone ⟨w, []⟩ = answer
  obtain ⟨outcome, s⟩ := answer
  cases outcome with
  | error e =>
    refine ⟨rfl, ?_, rfl⟩
    intro r hr
    cases hr
  | ok r =>
    dsimp only [followedBy, respondAll]
    rw [if_pos ho]
    refine ⟨rfl, ?_, rfl⟩
    intro r' hr
    cases hr
    rfl

end CommandLine

theorem Response.build_about (target : String) (checks : List (String × CheckResult)) (a b : Json) :
    build target checks a =
      (build target checks b).map fun r => { r with about := (orEmpty a).clean } := by
  simp only [build]
  cases collect (results checks) with
  | error e => rfl
  | ok tagged =>
    cases hm : tagged.mapM advise with
    | error e => simp only [bind, Except.bind, hm, Except.map]
    | ok findings => simp only [bind, Except.bind, hm, Except.map, pure, Except.pure]

theorem Response.toJson_about (r : Response) (about : Json) :
    ({ r with about := about } : Response).toJson = Json.set "meta" about r.toJson := by
  simp [toJson, Json.set]

theorem orEmpty_origin_clean (source : String) :
    (Response.orEmpty (origin source)).clean = origin source := by
  have hversion : "_sa".isPrefixOf "version" = false := by decide +kernel
  have hsource : "_sa".isPrefixOf "source" = false := by decide +kernel
  have horigin : Response.orEmpty (origin source) = origin source := rfl
  rw [horigin, origin]
  simp only [Json.clean, Json.cleanFields, hversion, hsource, Bool.false_eq_true, if_false]

/-- The front end shows in a response only where it is named. -/
theorem respond_source {τ : Type} [Instant τ] (settings : Settings τ) (a b zone : String)
    (session : Session τ) :
    respond settings a zone session =
      ((respond settings b zone session).1.map fun r => { r with about := origin a },
        (respond settings b zone session).2) := by
  unfold respond
  split
  next e s h => rfl
  next report s h =>
    dsimp only
    rw [Response.build_about _ _ (origin a) (origin b), orEmpty_origin_clean]

theorem about_of_respond {τ : Type} [Instant τ] {settings : Settings τ} {source zone : String}
    {session : Session τ} {r : Response} (h : (respond settings source zone session).1 = .ok r) :
    r.about = origin source := by
  rw [respond_source settings source source] at h
  dsimp only at h
  obtain ⟨q, -, rfl⟩ := Dns.map_eq_ok.mp h
  rfl

namespace Web

open Text

/-- The target of a check is read as its path, whatever the parameters are. -/
theorem pathOf_check {params : List (String × String)} (h : checkForm params = .ok ()) :
    pathOf Route.check.path params = .ok Route.check.path := by
  have htext : checkText Route.check.path = .ok () := by decide +kernel
  have htarget : Target.read Route.check.path = ⟨[], [], Route.check.path, []⟩ := rfl
  have hauthority : Authority.read [] = ⟨[], [], []⟩ := rfl
  have hhost : checkHost [] = .ok () := by decide +kernel
  have hport : readPort [] [] = .ok none := by decide +kernel
  have hrelative : checkRelative Route.check.path = .ok () := by decide +kernel
  have hsite : sitePath ⟨[], [], Route.check.path, []⟩ Route.check.path = .ok Route.check.path := by
    decide +kernel
  have hescape : unescape (unescape Route.check.path) = Route.check.path := by decide +kernel
  simp only [pathOf, bind, Except.bind, htext, htarget, hauthority, hhost, hport, List.isEmpty_nil,
    Option.isNone_none, Bool.and_self, Bool.or_self, if_true, hrelative, hsite, h, hescape]
  rfl

theorem checkForm_zone {zone : String} (h : zone.length ≤ 253) :
    checkForm [("zone", zone)] = .ok () := by
  have hzone := length_escape_le isPlainInForm zone.toList
  have hsize : (joinWith ['&'] ([("zone", zone)].map formPair)).length ≤ maxSize := by
    have hkey : (escape isPlainInForm "zone".toList).length = 4 := by decide +kernel
    rw [String.length_toList] at hzone
    simp only [List.map_cons, List.map_nil, joinWith, formPair, List.length_append, List.length_cons,
      hkey, maxSize]
    omega
  rw [checkForm, checkSize, if_neg (by omega)]

theorem get_check {τ : Type} [Instant τ] (settings : Settings τ) {zone : String}
    (hl : 1 ≤ zone.length ∧ zone.length ≤ 253) (s : Session τ) :
    get settings "/check" [("zone", zone)] s = check settings zone s := by
  have hroute : routeOf? Route.check.path = some .check := by decide +kernel
  have hzone : zoneOf? [("zone", zone)] = some zone := by
    have hparameter : parameter? "zone" [("zone", zone)] = some zone := rfl
    rw [zoneOf?, hparameter]
    dsimp only
    rw [if_pos (by simpa using hl)]
  have hpath : pathOf "/check".toList [("zone", zone)] = .ok Route.check.path :=
    pathOf_check (checkForm_zone hl.2)
  rw [get, hpath]
  dsimp only
  rw [hroute]
  dsimp only
  rw [hzone]

theorem check_respond {τ : Type} [Instant τ] (settings : Settings τ) {zone accepted : String}
    (hz : Zone.accept zone = .ok accepted) (s : Session τ) :
    check settings zone s =
      ((respond settings "cli" accepted s).1.map fun r =>
        ⟨200, some (.obj (Json.set "meta" (origin "api") r.toJson))⟩,
        (respond settings "cli" accepted s).2) := by
  rw [check, hz]
  dsimp only
  rw [respond_source settings "api" "cli"]
  generalize respond settings "cli" accepted s = answer
  obtain ⟨outcome, t⟩ := answer
  cases outcome with
  | error e => rfl
  | ok r =>
    dsimp only [Except.map]
    rw [r.toJson_about]

end Web

/-- Of one zone the command line prints what the site answers under the settings that it settles on, but
for the name of the front end, and it sends the same messages. These are the settings of the environment
when that leaves enrichment, probes and the lifetime of ownership as they usually are. -/
theorem frontEnds_agree {env : Environment} {w : Network Float} {settings : Settings Float}
    (hs : Settings.fromEnvironment env w = .ok settings)
    (hw : ∀ host address, w.hosts.lookup host = some address → w.resolveHost address = address)
    {zone accepted : String} (hl : 1 ≤ zone.length ∧ zone.length ≤ 253)
    (hz : Zone.accept zone = .ok accepted) :
    ∃ outcome : Except Failure Response,
      (CommandLine.run env [zone, "--json"] w).exit = outcome.map (fun _ => 0) ∧
      (∀ r, outcome = .ok r → r.about = origin "cli" ∧
        (CommandLine.run env [zone, "--json"] w).output = (Json.obj [("targets", .strings [accepted]),
          ("results", .arr [.obj r.toJson])]).indented ++ "\n") ∧
      (Web.get settings.settled "/check" [("zone", zone)] ⟨w, []⟩).1 =
        outcome.map (fun r => ⟨200, some (.obj (Json.set "meta" (origin "api") r.toJson))⟩) ∧
      (Web.get settings.settled "/check" [("zone", zone)] ⟨w, []⟩).2.network =
        (CommandLine.run env [zone, "--json"] w).network ∧
      (settings.enrich = true → settings.probe = true →
        settings.lifetime = CommandLine.usualLifetime → settings.settled = settings) := by
  obtain ⟨hexit, houtput, hnetwork⟩ := CommandLine.audit_single
    (o := { CommandLine.Options.ofSettings settings with zones := [zone], json := true }) rfl
    settings.settled accepted w
  rw [CommandLine.run_zone hs hw hz, Web.get_check settings.settled hl,
    Web.check_respond settings.settled hz]
  dsimp only
  refine ⟨_, hexit, fun r hr => ⟨about_of_respond hr, houtput r hr⟩, rfl, hnetwork.symm, ?_⟩
  exact Settings.settled_eq_self

/-- With nothing in the environment the settings are the usual ones, and the front ends agree: the one
result that is printed is the body of the page, but for the name of the front end. -/
theorem frontEnds_agree_default :
    Settings.fromEnvironment [] (twoAddresses []) = .ok .default ∧
      Zone.accept "Example.com." = .ok "example.com" ∧ Settings.default.settled = .default ∧
      (CommandLine.run [] ["Example.com.", "--json"] (twoAddresses [])).exit = .ok 0 ∧
      ∃ fields : List (String × Json),
        Json.find? "meta" fields = some (origin "cli") ∧
        (CommandLine.run [] ["Example.com.", "--json"] (twoAddresses [])).output =
          "\x7b\n  \"targets\": [\n    \"example.com\"\n  ],\n  \"results\": [\n    " ++
            String.ofList (Json.indentedChars 2 (.obj fields)) ++ "\n  ]\n\x7d\n" ∧
        (Web.get .default "/check" [("zone", "Example.com.")] ⟨twoAddresses [], []⟩).1 =
          .ok ⟨200, some (.obj (Json.set "meta" (origin "api") fields))⟩ := by
  have hs : Settings.fromEnvironment [] (twoAddresses []) = .ok .default := rfl
  have hw : ∀ host address, (twoAddresses []).hosts.lookup host = some address →
      (twoAddresses []).resolveHost address = address := by
    intro host address h
    cases h
  have hz : Zone.accept "Example.com." = .ok "example.com" := by decide +kernel
  obtain ⟨outcome, hexit, hprinted, hpage, -, hsettled⟩ := frontEnds_agree hs hw (by decide) hz
  have husual : Settings.default.settled = .default := hsettled rfl rfl rfl
  have hcode : (CommandLine.run [] ["Example.com.", "--json"] (twoAddresses [])).exit.toOption =
      some 0 := by decide +kernel
  cases outcome with
  | error e =>
    rw [hexit] at hcode
    cases hcode
  | ok r =>
    obtain ⟨habout, houtput⟩ := hprinted r rfl
    rw [husual] at hpage
    refine ⟨hs, hz, husual, hexit, r.toJson, ?_, ?_, hpage⟩
    · rw [← habout]
      rfl
    · rw [houtput]
      generalize Json.obj r.toJson = result
      apply String.toList_injective
      simp [Json.indented, Json.indentedChars, Json.indentedFields, Json.indentedItems, Json.block,
        Json.newLine, Json.strings, Text.joinWith, Json.scalarText, Json.stringText, Json.escapeChar]

/-- One nameserver with one address. -/
def oneAddress : Network Float :=
  let x : Dns.Name := .single 120
  .start 0 1 [
    .always none "a.b." "NS" (.ok ⟨.noError, [⟨x, 60, [.ns x]⟩]⟩),
    .always none "x." "A" (.ok ⟨.noError, [⟨x, 60, [.a (.ofNat 0xC0000201)]⟩]⟩)] []

/-- Without probes in the environment the site sends four messages, and the command line six. -/
example :
    let env := [("NSAUDIT_PROBE", "0")]
    (CommandLine.run env ["a.b", "--json"] oneAddress).network.calls.length = 6 ∧
      (Settings.fromEnvironment env oneAddress).toOption.map (fun settings =>
        (Web.get settings "/check" [("zone", "a.b")] ⟨oneAddress, []⟩).2.network.calls.length) =
          some 4 := by
  decide +kernel

end DelegationAudit
