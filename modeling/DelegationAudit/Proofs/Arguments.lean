import DelegationAudit.CommandLine

namespace DelegationAudit.CommandLine

def Flag.word (f : Flag) : String := f.spellings.getLastD ""

def switches : List Flag := [.json, .noEnrich, .noProbe]

def Options.switched (fs : List Flag) (o : Options) : Options :=
  { o with
    json := o.json || fs.contains .json
    enrich := o.enrich && !fs.contains .noEnrich
    probe := o.probe && !fs.contains .noProbe }

theorem Options.switched_nil (o : Options) : o.switched [] = o := by
  simp [switched]

theorem Options.switched_cons (f : Flag) (fs : List Flag) (o : Options) :
    (o.switched [f]).switched fs = o.switched (f :: fs) := by
  simp only [switched, List.contains_cons, List.contains_nil, Bool.or_false, Bool.not_or, Bool.or_assoc,
    Bool.and_assoc]

def switchWord (f : Flag) : String × Word := (f.word, .option (some f) false none)

def zoneWord (zone : String) : String × Word := (zone, .plain)

theorem classify_plain {word : String} (h : word.toList.head? ≠ some '-') :
    classify word = .ok .plain := by
  rw [classify]
  split
  next c rest hword => simp [hword] at h
  next => rfl

theorem classifyAll_cons {word : String} {kind : Word} (hmark : word ≠ markWord)
    (hkind : classify word = .ok kind) (rest : List String) :
    classifyAll (word :: rest) = (classifyAll rest).map ((word, kind) :: ·) := by
  have hne : (word == markWord) = false := beq_eq_false_iff_ne.mpr hmark
  rw [classifyAll, hne, hkind]
  rfl

theorem ne_markWord {zone : String} (h : zone.toList.head? ≠ some '-') : zone ≠ markWord := by
  rintro rfl
  exact h rfl

theorem classify_switch {f : Flag} (h : f ∈ switches) :
    f.word ≠ markWord ∧ classify f.word = .ok (.option (some f) false none) := by
  simp only [switches, List.mem_cons, List.not_mem_nil, or_false] at h
  rcases h with rfl | rfl | rfl
  · exact ⟨by decide, rfl⟩
  · exact ⟨by decide, rfl⟩
  · exact ⟨by decide, rfl⟩

variable {zones : List String} {fs : List Flag} (hzones : ∀ z ∈ zones, z.toList.head? ≠ some '-')
  (hfs : ∀ f ∈ fs, f ∈ switches)

include hfs in
theorem classifyAll_switches : classifyAll (fs.map Flag.word) = .ok (fs.map switchWord) := by
  induction fs with
  | nil => rfl
  | cons f fs ih =>
    obtain ⟨hmark, hkind⟩ := classify_switch (hfs f (by simp))
    have hrest := ih fun g hg => hfs g (by simp [hg])
    rw [List.map_cons, classifyAll_cons hmark hkind, hrest]
    rfl

include hzones hfs in
theorem classifyAll_zones :
    classifyAll (zones ++ fs.map Flag.word) = .ok (zones.map zoneWord ++ fs.map switchWord) := by
  induction zones with
  | nil => exact classifyAll_switches hfs
  | cons zone zones ih =>
    have hplain := hzones zone (by simp)
    have hrest := ih fun z hz => hzones z (by simp [hz])
    rw [List.cons_append, classifyAll_cons (ne_markWord hplain) (classify_plain hplain), hrest]
    rfl

/-- Zones are kept until the next option. -/
theorem readWords_zones (zones : List String) (run rest : List (String × Word)) (r : Reading) :
    readWords none run (zones.map zoneWord ++ rest) r =
      readWords none ((zones.map zoneWord).reverse ++ run) rest r := by
  induction zones generalizing run with
  | nil => rfl
  | cons zone zones ih =>
    have hstep : readWords none run ((zone :: zones).map zoneWord ++ rest) r =
        readWords none (zoneWord zone :: run) (zones.map zoneWord ++ rest) r := rfl
    rw [hstep, ih, List.map_cons, List.reverse_cons, List.append_assoc, List.singleton_append]

theorem setFlag_switch {f : Flag} (h : f ∈ switches) (r : Reading) :
    setFlag f r = .ok { r with options := r.options.switched [f] } := by
  simp only [switches, List.mem_cons, List.not_mem_nil, or_false] at h
  rcases h with rfl | rfl | rfl <;> simp [setFlag, Options.switched]

/-- The words before a switch are taken, and it is set. -/
theorem readWords_switch {f : Flag} (h : f ∈ switches) (run rest : List (String × Word)) (r : Reading) :
    readWords none run (switchWord f :: rest) r = readWords none [] rest
      { takeRun run.reverse r with options := (takeRun run.reverse r).options.switched [f] } := by
  have hbare : f.takesValue = false := by
    revert f
    decide
  have hset : setFlags [f] (takeRun run.reverse r) =
      .ok { takeRun run.reverse r with options := (takeRun run.reverse r).options.switched [f] } := by
    rw [setFlags, List.foldlM_cons, setFlag_switch h]
    rfl
  rw [switchWord, readWords]
  dsimp only [clusterOf]
  rw [hbare]
  rw [if_pos Bool.not_false, List.nil_append, hset]

theorem takeRun_zones {zones : List String} (hne : zones ≠ []) (hmark : markWord ∉ zones) {r : Reading}
    (hr : r.zonesMet = false) :
    takeRun (zones.map zoneWord) r =
      { r with options := { r.options with zones := zones }, zonesMet := true } := by
  obtain ⟨zone, rest, rfl⟩ := List.exists_cons_of_ne_nil hne
  have hwords : ((zone :: rest).map zoneWord).map (·.1) = zone :: rest := by
    rw [List.map_map]
    exact List.map_id _
  have hzones : takeRun ((zone :: rest).map zoneWord) r =
      takeZones (((zone :: rest).map zoneWord).map (·.1)) r := by
    rw [takeRun, hr]
    rfl
  rw [hzones, hwords, takeZones, List.erase_of_not_mem hmark]

include hfs in
theorem readWords_switches (r : Reading) :
    readWords none [] (fs.map switchWord) r = .ok { r with options := r.options.switched fs } := by
  induction fs generalizing r with
  | nil =>
    rw [Options.switched_nil]
    rfl
  | cons f fs ih =>
    have hrest := ih fun g hg => hfs g (by simp [hg])
    have htaken : takeRun [].reverse r = r := rfl
    rw [List.map_cons, readWords_switch (hfs f (by simp)), htaken, hrest]
    dsimp only
    rw [Options.switched_cons]

include hzones hfs in
/-- A command line of zones and switches is read as what it says. -/
theorem read_zones (hne : zones ≠ []) (settings : Settings Float) :
    read settings (zones ++ fs.map Flag.word) =
      .ok (({ Options.ofSettings settings with zones := zones } : Options).switched fs) := by
  have hmark : markWord ∉ zones := fun hmem => ne_markWord (hzones _ hmem) rfl
  have htaken := takeRun_zones hne hmark (r := ⟨Options.ofSettings settings, false, []⟩) rfl
  have hwords : readWords none [] (zones.map zoneWord ++ fs.map switchWord)
      ⟨Options.ofSettings settings, false, []⟩ =
      .ok ⟨({ Options.ofSettings settings with zones := zones } : Options).switched fs, true, []⟩ := by
    rw [readWords_zones, List.append_nil]
    cases fs with
    | nil =>
      have hlast : readWords none (zones.map zoneWord).reverse [] ⟨Options.ofSettings settings, false, []⟩ =
          .ok (takeRun (zones.map zoneWord).reverse.reverse ⟨Options.ofSettings settings, false, []⟩) := rfl
      rw [List.map_nil, hlast, List.reverse_reverse, htaken, Options.switched_nil]
    | cons f fs =>
      rw [List.map_cons, readWords_switch (hfs f (by simp)), List.reverse_reverse, htaken,
        readWords_switches fun g hg => hfs g (by simp [hg])]
      dsimp only
      rw [Options.switched_cons]
  rw [read, classifyAll_zones hzones hfs]
  dsimp only
  rw [hwords]
  rfl

theorem settingsOf_zones (settings : Settings Float) (zones : List String) (fs : List Flag)
    (w : Network Float) :
    settingsOf (({ Options.ofSettings settings with zones := zones } : Options).switched fs) w =
      .ok { settings with
        resolver := w.resolveHost settings.resolver
        enrich := !fs.contains .noEnrich
        probe := !fs.contains .noProbe
        lifetime := usualLifetime } := rfl

end DelegationAudit.CommandLine
