import BridgeLedger.Proofs.NewDirectories

/-!
# The data directory of a setup

A place is canonical if the path that names it leads to it and to nothing but directories on the way. A walk that names
what it finds ends in a canonical place (`FileTree.Leads.canonical`), and from such a place its path leads back to it
(`FileTree.Canonical.canonical_text`). So a setup that succeeds may be repeated, with the same settings or with the
path of the data directory it found, and changes nothing any more (`Settings.setUp_canonical`). What it found is a
directory, unless the path led to something else from the start: that is taken as it is
(`Settings.setUp_directory_iff`).
-/

namespace BridgeLedger

namespace FileTree

/-- The path that names the place has only directories on the way, and what it leads to is no link. -/
structure Canonical (tree : FileTree) (place : Place) : Prop where
  plain : ∀ name ∈ place, PlainName name
  above : ∀ front, front <+: place → front ≠ place → tree.isDirectoryAt front = true
  there : ∃ node, tree.node? place = some node ∧ ∀ target, node ≠ .link target
  short : place.text.utf8ByteSize < pathLimit

/-- A system keeps no NUL in the target of a link. -/
def PlainLinks (tree : FileTree) : Prop :=
  ∀ place target, tree.node? place = some (.link target) → '\x00' ∉ target.toList

section
variable {tree after : FileTree} {place : Place} {mode : Nat}

theorem canonical_root (tree : FileTree) : tree.Canonical [] where
  plain := nofun
  above := fun front hfront hne => absurd (List.prefix_nil.mp hfront) hne
  there := ⟨.directory 0o755, rfl, nofun⟩
  short := by decide

theorem Canonical.snoc {part : String} {node : Node} (h : tree.Canonical place)
    (found : tree.Finds .name place part node) (direct : ∀ target, node ≠ .link target)
    (whole : '/' ∉ part.toList ∧ '\x00' ∉ part.toList) : tree.Canonical (place ++ [part]) where
  plain := by
    intro name hname
    rcases List.mem_append.mp hname with hname | hname
    · exact h.plain name hname
    · exact List.mem_singleton.mp hname ▸ ⟨found.named, found.short, whole⟩
  above := by
    intro front hfront hne
    rcases List.prefix_concat_iff.mp hfront with rfl | hfront
    · exact absurd rfl hne
    · by_cases hplace : front = place
      · exact hplace ▸ found.inside
      · exact h.above front hfront hplace
  there := ⟨node, found.there, direct⟩
  short := found.nameable rfl

theorem Canonical.front {name : String} (h : tree.Canonical (place ++ [name])) : tree.Canonical place := by
  have hplain : ∀ other ∈ place, PlainName other := fun other hother => h.plain other (List.mem_append_left _ hother)
  have hinside : tree.isDirectoryAt place = true := h.above place (List.prefix_append place [name]) (by simp)
  refine ⟨hplain, fun front hfront hne => ?_, ?_, ?_⟩
  · refine h.above front (hfront.trans (List.prefix_append place [name])) fun hwhole => ?_
    have hlength := hfront.length_le
    rw [hwhole, List.length_append, List.length_singleton] at hlength
    omega
  · obtain ⟨mode, hnode⟩ := isDirectoryAt_iff.mp hinside
    exact ⟨.directory mode, hnode, nofun⟩
  · have hshort := h.short
    rw [Place.text_concat hplain] at hshort
    exact Nat.lt_of_le_of_lt (size_le_join place.text name) hshort

theorem Canonical.dropLast (h : tree.Canonical place) : tree.Canonical place.dropLast := by
  rcases List.eq_nil_or_concat place with rfl | ⟨front, last, rfl⟩
  · exact h
  · rw [List.concat_eq_append] at h ⊢
    rw [List.dropLast_concat]
    exact h.front

theorem Canonical.adds (h : tree.Canonical place) (hadds : Adds mode tree after) : after.Canonical place where
  plain := h.plain
  above := fun front hfront hne => hadds.isDirectoryAt (h.above front hfront hne)
  there := h.there.imp fun _ hnode => hnode.imp_left hadds.node
  short := h.short

theorem PlainLinks.adds (h : tree.PlainLinks) (hadds : Adds mode tree after) : after.PlainLinks := by
  intro place target hlink
  rcases hadds.node_cases hlink with hbefore | ⟨_, hdirectory⟩
  · exact h place target hbefore
  · cases hdirectory

/-! ## From a path to its canonical place -/

theorem whole_of_mem_parts {path part : String} (hpath : '\x00' ∉ path.toList) (hpart : part ∈ FileTree.parts path) :
    '/' ∉ part.toList ∧ '\x00' ∉ part.toList :=
  ⟨fun hslash => (of_mem_parts hpart hslash).2 rfl, fun hnul => hpath (of_mem_parts hpart hnul).1⟩

theorem Leads.canonical {links : Nat} {dest : Place} {parts : List String} (hlinks : tree.PlainLinks)
    (h : tree.Leads .name links place parts dest) (hplace : tree.Canonical place)
    (hparts : ∀ part ∈ parts, '/' ∉ part.toList ∧ '\x00' ∉ part.toList) : tree.Canonical dest := by
  -- wherever the walk is, the place is canonical and the parts to go could be names
  induction h with
  | done => exact hplace
  | stay _ _ _ ih => exact ih hplace (List.forall_mem_cons.mp hparts).2
  | up _ _ ih => exact ih hplace.dropLast (List.forall_mem_cons.mp hparts).2
  | enter found direct _ ih =>
    obtain ⟨hpart, hrest⟩ := List.forall_mem_cons.mp hparts
    exact ih (hplace.snoc found direct hpart) hrest
  | @follow _ place _ _ target _ found _ ih =>
    have htarget : '\x00' ∉ target.toList := hlinks _ target found.there
    refine ih ?_ fun part hpart => ?_
    · unfold FileTree.start
      split
      · exact tree.canonical_root
      · exact hplace
    · rcases List.mem_append.mp hpart with hpart | hpart
      · exact whole_of_mem_parts htarget hpart
      · exact hparts part (List.mem_cons_of_mem _ hpart)

end

/-! ## From a canonical place to its path -/

section
variable {tree : FileTree} {place : Place}

theorem Canonical.leads (h : tree.Canonical place) : tree.Leads .name 0 [] place place := by
  induction place using List.reverseRecOn with
  | nil => exact .done
  | append_singleton front name ih =>
    obtain ⟨node, hnode, hdirect⟩ := h.there
    have hname : PlainName name := h.plain name (by simp)
    have found : tree.Finds .name front name node :=
      ⟨h.above front (List.prefix_append front [name]) (by simp), hname.named, hname.short, fun _ => h.short, hnode⟩
    have honward : tree.Leads .name 0 front [name] (front ++ [name]) := .enter found hdirect .done
    exact (ih h.front).append honward

theorem Canonical.check_text (h : tree.Canonical place) : check place.text = .ok () := by
  refine check_eq_ok.mpr ⟨fun hnul => ?_, by simp [Place.text], h.short⟩
  rcases Place.of_mem_text hnul with hslash | ⟨name, hname, hmem⟩
  · exact absurd hslash (by decide)
  · exact (h.plain name hname).whole.2 hmem

theorem Canonical.leads_text (h : tree.Canonical place) (here : Place) :
    tree.Leads .name maxLinks (start here place.text) (FileTree.parts place.text) place := by
  rw [Place.start_text]
  have hroot : tree.isDirectoryAt [] = true := rfl
  by_cases hplace : place = []
  · subst hplace
    exact .stay hroot (.inl rfl) (.stay hroot (.inl rfl) .done)
  · rw [parts_text h.plain hplace]
    exact .stay hroot (.inl rfl) (h.leads.more (Nat.zero_le maxLinks))

theorem Canonical.canonical_text (h : tree.Canonical place) (here : Place) :
    tree.canonical here place.text = .ok place :=
  canonical_ok_iff.mpr ⟨h.check_text, h.leads_text here⟩

end

section
variable {tree : FileTree} {here dest : Place} {path : String}

theorem resolve_of_canonical (h : tree.canonical here path = .ok dest) : tree.resolve here path = .ok dest := by
  obtain ⟨hcheck, hleads⟩ := canonical_ok_iff.mp h
  exact resolve_ok_iff.mpr ⟨hcheck, hleads.find⟩

theorem canonical_of_ok (hlinks : tree.PlainLinks) (hhere : isAbsolute path = true ∨ tree.Canonical here)
    (h : tree.canonical here path = .ok dest) : tree.Canonical dest := by
  obtain ⟨hcheck, hleads⟩ := canonical_ok_iff.mp h
  have hstart : tree.Canonical (start here path) := by
    unfold FileTree.start
    split
    · exact tree.canonical_root
    · next habsolute => exact hhere.resolve_left habsolute
  exact hleads.canonical hlinks hstart fun part => whole_of_mem_parts (check_eq_ok.mp hcheck).1

/-- Once the data directory was seen to, the path leads to a directory, unless it led elsewhere from the start. -/
theorem ensureDataDir_directory {after : FileTree} (hensure : tree.ensureDataDir here path = (.ok (), after))
    (hdest : after.resolve here path = .ok dest) :
    after.isDirectoryAt dest = true ↔
      ∀ place, tree.resolve here path = .ok place → tree.isDirectoryAt place = true := by
  cases hbefore : tree.resolve here path with
  | ok place =>
    -- nothing was made, so the path leads where it led before
    rw [ensureDataDir_of_resolve hbefore] at hensure
    obtain ⟨-, rfl⟩ := Prod.mk.inj hensure
    rw [hbefore] at hdest
    cases hdest
    exact ⟨fun hinside place hplace => Except.ok.inj hplace ▸ hinside, fun hinside => hinside dest rfl⟩
  | error cause =>
    refine ⟨fun _ => nofun, fun _ => ?_⟩
    have hmissing : ¬ tree.exists? here path = true := by
      rw [FileTree.exists?, hbefore]
      exact Bool.false_ne_true
    rw [ensureDataDir, if_neg hmissing] at hensure
    rcases hmade : tree.makeDirectories 0o700 here path with ⟨cause | ⟨⟩, made⟩ <;> rw [hmade] at hensure <;>
      cases hensure
    obtain ⟨place, hplace, hinside⟩ := makeDirectories_leads hmade (check_eq_ok.mp (resolve_ok_iff.mp hdest).1).2.1
    rw [hdest] at hplace
    exact Except.ok.inj hplace ▸ hinside

end

end FileTree

namespace Settings

section
variable {settings : Settings} {home : String} {here : Place} {tree after : FileTree} {setup : Setup}

theorem settle_ok_iff {limit : LogLevel} {path : String} :
    settings.settle limit tree here path = .ok setup ↔
      tree.canonical here path = .ok setup.dataDir ∧ ∃ conninfo, Conninfo.parse? settings.postgresUri = some conninfo ∧
        setup = ⟨setup.dataDir, limit, settings.logToFile.getD false, conninfo⟩ := by
  unfold settle
  cases tree.canonical here path with
  | error cause => simp
  | ok dataDir =>
    cases Conninfo.parse? settings.postgresUri with
    | none => simp
    | some conninfo =>
      obtain ⟨dir, limit', logToFile, conninfo'⟩ := setup
      simp only [Except.ok.injEq, Option.some.injEq, exists_eq_left', Setup.mk.injEq, true_and]
      tauto

theorem setUp_ok (h : settings.setUp home here tree = (.ok setup, after)) :
    ∃ limit, settings.limit = .ok limit ∧ tree.ensureDataDir here (settings.dataPath home) = (.ok (), after) ∧
      settings.settle limit after here (settings.dataPath home) = .ok setup := by
  unfold setUp at h
  cases hlimit : settings.limit with
  | error cause =>
    rw [hlimit] at h
    cases h
  | ok limit =>
    rw [hlimit] at h
    rcases hensure : tree.ensureDataDir here (settings.dataPath home) with ⟨cause | ⟨⟩, made⟩ <;>
      simp only [hensure] at h
    · cases h
    · obtain ⟨hsettle, rfl⟩ := Prod.mk.inj h
      exact ⟨limit, rfl, rfl, hsettle⟩

theorem setUp_of_settle {limit : LogLevel} (hlimit : settings.limit = .ok limit)
    (hsettle : settings.settle limit tree here (settings.dataPath home) = .ok setup) :
    settings.setUp home here tree = (.ok setup, tree) := by
  have hplace := FileTree.resolve_of_canonical (settle_ok_iff.mp hsettle).1
  unfold setUp
  simp only [hlimit, FileTree.ensureDataDir_of_resolve hplace, hsettle]

end

/-- The data directory of a setup that succeeds is what its path leads to, under the one path that names it. With these
settings, or with that path for the data directory, the setup may be repeated: it comes out the same and nothing
changes. Of the working directory, where a relative path starts, the system itself knows such a path. -/
theorem setUp_canonical {settings : Settings} {home : String} {here : Place} {tree after : FileTree} {setup : Setup}
    (hlinks : tree.PlainLinks)
    (hhere : FileTree.isAbsolute (settings.dataPath home) = true ∨ tree.Canonical here)
    (hsetup : settings.setUp home here tree = (.ok setup, after)) :
    after.Canonical setup.dataDir ∧
      FileTree.isAbsolute setup.dataDir.text = true ∧
      (∀ part ∈ FileTree.parts setup.dataDir.text, part ≠ "." ∧ part ≠ "..") ∧
      after.resolve here (settings.dataPath home) = .ok setup.dataDir ∧
      (∀ here', after.resolve here' setup.dataDir.text = .ok setup.dataDir) ∧
      setup.logFile.text = FileTree.join setup.dataDir.text "log" ∧
      settings.setUp home here after = (.ok setup, after) ∧
      ∀ home' here',
        { settings with dataDir := some setup.dataDir.text }.setUp home' here' after = (.ok setup, after) := by
  have hadds : FileTree.Adds 0o700 tree after := by
    have hadds := settings.setUp_adds home here tree
    rwa [hsetup] at hadds
  obtain ⟨level, hlevel, -, hsettle⟩ := setUp_ok hsetup
  obtain ⟨hnamed, conninfo, hconninfo, hanswer⟩ := settle_ok_iff.mp hsettle
  have hcanonical : after.Canonical setup.dataDir :=
    FileTree.canonical_of_ok (hlinks.adds hadds) (hhere.imp_right (·.adds hadds)) hnamed
  refine ⟨hcanonical, setup.dataDir.isAbsolute_text, fun part => FileTree.no_dots_in_text hcanonical.plain,
    FileTree.resolve_of_canonical hnamed,
    fun here' => FileTree.resolve_of_canonical (hcanonical.canonical_text here'),
    Place.text_concat hcanonical.plain "log", setUp_of_settle hlevel hsettle, fun home' here' => ?_⟩
  have hlevel' : limit { settings with dataDir := some setup.dataDir.text } = .ok level := hlevel
  exact setUp_of_settle hlevel' (settle_ok_iff.mpr ⟨hcanonical.canonical_text here', conninfo, hconninfo, hanswer⟩)

/-- A tree in which the directory above `now` is not the working directory. -/
def linkedTree : FileTree :=
  { entries := [(["home"], .directory 0o755), (["srv"], .directory 0o755), (["srv", "data"], .directory 0o755),
      (["home", "now"], .link "/srv/data")] }

def linkedSettings : Settings := { postgresUri := "postgres://", dataDir := some "now/../ledger/" }

def linkedSetup : Setup := ⟨["srv", "ledger"], .info, false, {}⟩

theorem linkedSettings_setUp : linkedSettings.setUp "/home" ["home"] linkedTree =
    (.ok linkedSetup, linkedTree.add ["srv", "ledger"] (.directory 0o700)) := by
  decide +kernel

theorem linkedTree_plainLinks : linkedTree.PlainLinks := by
  intro place target hlink
  obtain ⟨before, rest, hentries, -⟩ := List.lookup_eq_some_iff.mp (show linkedTree.entries.lookup place = _ from by
    cases place with
    | nil => cases hlink
    | cons => exact hlink)
  have hmem : (place, Node.link target) ∈ linkedTree.entries := by
    rw [hentries]
    exact List.mem_append_cons_self ..
  obtain ⟨-, rfl⟩ : place = ["home", "now"] ∧ target = "/srv/data" := by simpa [linkedTree] using hmem
  decide

theorem linkedSetUp_repeated : linkedTree.PlainLinks ∧ linkedTree.Canonical ["home"] ∧
    linkedSettings.setUp "/home" ["home"] linkedTree =
      (.ok linkedSetup, linkedTree.add ["srv", "ledger"] (.directory 0o700)) ∧
    linkedSetup.dataDir.text = "/srv/ledger" ∧
    Settings.setUp { linkedSettings with dataDir := some linkedSetup.dataDir.text } "/" []
        (linkedTree.add ["srv", "ledger"] (.directory 0o700)) =
      (.ok linkedSetup, linkedTree.add ["srv", "ledger"] (.directory 0o700)) := by
  have hnamed : linkedTree.canonical [] "/home" = .ok ["home"] := by decide +kernel
  have hhere : linkedTree.Canonical ["home"] := FileTree.canonical_of_ok linkedTree_plainLinks (.inl rfl) hnamed
  obtain ⟨-, -, -, -, -, -, -, hagain⟩ := setUp_canonical linkedTree_plainLinks (.inr hhere) linkedSettings_setUp
  exact ⟨linkedTree_plainLinks, hhere, linkedSettings_setUp, by decide +kernel, hagain "/" []⟩

/-- What a setup takes for its data directory is one, unless the path led to something else before. -/
theorem setUp_directory_iff {settings : Settings} {home : String} {here : Place} {tree after : FileTree} {setup : Setup}
    (hsetup : settings.setUp home here tree = (.ok setup, after)) :
    after.isDirectoryAt setup.dataDir = true ↔
      ∀ place, tree.resolve here (settings.dataPath home) = .ok place → tree.isDirectoryAt place = true := by
  obtain ⟨limit, -, hensure, hsettle⟩ := setUp_ok hsetup
  exact FileTree.ensureDataDir_directory hensure (FileTree.resolve_of_canonical (settle_ok_iff.mp hsettle).1)

theorem linkedSetUp_directory : linkedSettings.setUp "/home" ["home"] linkedTree =
      (.ok linkedSetup, linkedTree.add ["srv", "ledger"] (.directory 0o700)) ∧
    (linkedTree.add ["srv", "ledger"] (.directory 0o700)).isDirectoryAt ["srv", "ledger"] = true := by
  have hmissing : linkedTree.resolve ["home"] "now/../ledger/" = .error .notFound := by decide +kernel
  refine ⟨linkedSettings_setUp, (setUp_directory_iff linkedSettings_setUp).mpr fun place hplace => ?_⟩
  rw [show linkedSettings.dataPath "/home" = "now/../ledger/" from rfl, hmissing] at hplace
  cases hplace

/-- A file is taken for the data directory if it is there. -/
theorem setUp_at_file :
    ¬ ∀ (settings : Settings) (home : String) (here : Place) (tree after : FileTree) (setup : Setup),
      settings.setUp home here tree = (.ok setup, after) → after.isDirectoryAt setup.dataDir = true := by
  intro hdirectory
  have hsetup : Settings.setUp { postgresUri := "postgres://", dataDir := some "notes" } "/" []
      { entries := [(["notes"], .file [])] } =
        (.ok ⟨["notes"], .info, false, {}⟩, { entries := [(["notes"], .file [])] }) := by
    decide +kernel
  have hinside := hdirectory _ _ _ _ _ _ hsetup
  revert hinside
  decide

end Settings

end BridgeLedger
