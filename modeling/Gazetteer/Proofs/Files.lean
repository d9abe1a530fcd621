import Gazetteer.Files

/-!
# Proofs/Files — trees that differ under one name

Writing a file or removing one changes a tree under a single name. `AgreeOff name` relates two such
trees. As long as no directory stands under the name, every path leads to the same place in both
(`AgreeOff.locate_ok`), and what stands there is the same, but for the name itself
(`AgreeOff.readBytes_ok`).

What was written without a flaw can be read (`readBytes_writeAlong`). A file is written to a free
place by putting it under its name (`writeAlong_free`); the directories on the way are there already
(`makeDirectories_parent`).
-/

namespace Gazetteer.Files

/-- Whether two trees are the same but for what stands under a name. -/
def AgreeOff (name : List String) (files files' : Files) : Prop :=
  files'.here = files.here ∧ ∀ other, other ≠ name → files'.at? other = files.at? other

variable {files files' : Files} {name : List String} {p : Path}

theorem AgreeOff.symm (h : AgreeOff name files files') : AgreeOff name files' files :=
  ⟨h.1.symm, fun other hne => (h.2 other hne).symm⟩

theorem agreeOff_set (files : Files) (name : List String) (node : Node) :
    AgreeOff name files (files.set name node) :=
  ⟨rfl, fun _ hne => at?_set_of_ne files hne node⟩

theorem at?_nil (files : Files) : files.at? [] = some .directory := rfl

/-! ## Following a path -/

/-- A path goes on from a name only if a directory stands there. -/
theorem follow_cons_ok {next : String} {rest dest : List String}
    (h : files.follow name (next :: rest) = .ok dest) :
    files.at? name = some .directory ∧
      files.follow (if next = ".." then name.dropLast else name ++ [next]) rest = .ok dest := by
  rw [follow] at h
  split at h
  · exact absurd h (by simp)
  · exact absurd h (by simp)
  · exact ⟨‹_›, h⟩

theorem follow_cons_of_directory {next : String} (h : files.at? name = some .directory)
    (rest : List String) : files.follow name (next :: rest)
      = files.follow (if next = ".." then name.dropLast else name ++ [next]) rest := by
  rw [follow, h]

/-- **The last name of a path** is the last name of the place that it leads to. -/
theorem follow_append_singleton {last : String} (hlast : last ≠ "..") :
    ∀ {start names dest : List String}, files.follow start (names ++ [last]) = .ok dest →
      ∃ dir, files.follow start names = .ok dir ∧ files.at? dir = some .directory ∧
        dest = dir ++ [last]
  | start, [], dest, h => by
      obtain ⟨hdir, hrest⟩ := follow_cons_ok h
      rw [if_neg hlast] at hrest
      exact ⟨start, rfl, hdir, (Except.ok.inj hrest).symm⟩
  | start, next :: names, dest, h => by
      obtain ⟨hdir, hrest⟩ := follow_cons_ok h
      obtain ⟨dir, hfollow, hat, hdest⟩ := follow_append_singleton hlast hrest
      exact ⟨dir, (follow_cons_of_directory hdir names).trans hfollow, hat, hdest⟩

/-- Names that do not lead back can be followed first. -/
theorem follow_append : ∀ {start first rest dest : List String}, ".." ∉ first →
    files.follow start (first ++ rest) = .ok dest → files.follow (start ++ first) rest = .ok dest
  | start, [], rest, dest, _, h => by rwa [List.append_nil]
  | start, next :: first, rest, dest, hup, h => by
      rw [List.mem_cons, not_or] at hup
      obtain ⟨-, hrest⟩ := follow_cons_ok h
      rw [if_neg (Ne.symm hup.1)] at hrest
      have hfollow := follow_append hup.2 hrest
      rwa [List.append_assoc] at hfollow

/-- **Paths lead to the same place** in trees that differ under a name where no directory stands. -/
theorem AgreeOff.follow (h : AgreeOff name files files')
    (hname : files.at? name ≠ some .directory) :
    ∀ {start names dest : List String}, files.follow start names = .ok dest →
      files'.follow start names = .ok dest
  | _, [], _, hfollow => hfollow
  | start, next :: names, dest, hfollow => by
      obtain ⟨hdir, hrest⟩ := follow_cons_ok hfollow
      have hne : start ≠ name := fun heq => hname (heq ▸ hdir)
      rw [follow_cons_of_directory ((h.2 start hne).trans hdir)]
      exact h.follow hname hrest

theorem locate_ok {dest : List String} (h : files.locate p = .ok dest) :
    (p.names.any fun n => n.toList.contains (Char.ofNat 0)) = false ∧
      ∃ start, files.start? p = some start ∧ files.follow start p.names = .ok dest := by
  rw [locate] at h
  split at h
  · exact absurd h (by simp)
  · split at h
    · exact absurd h (by simp)
    · exact ⟨Bool.eq_false_iff.mpr ‹_›, _, ‹_›, h⟩

theorem locate_of_follow {start dest : List String}
    (hnull : (p.names.any fun n => n.toList.contains (Char.ofNat 0)) = false)
    (hstart : files.start? p = some start) (hfollow : files.follow start p.names = .ok dest) :
    files.locate p = .ok dest := by
  rw [locate, if_neg (Bool.eq_false_iff.mp hnull), hstart]
  exact hfollow

theorem AgreeOff.start? (h : AgreeOff name files files') (p : Path) :
    files'.start? p = files.start? p := by rw [Files.start?, Files.start?, h.1]

theorem AgreeOff.absolute (h : AgreeOff name files files') (p : Path) :
    files'.absolute p = files.absolute p := by
  rw [Files.absolute, Files.absolute, herePath, herePath, h.1]

theorem AgreeOff.locate_ok (h : AgreeOff name files files')
    (hname : files.at? name ≠ some .directory) {dest : List String}
    (hlocate : files.locate p = .ok dest) : files'.locate p = .ok dest := by
  obtain ⟨hnull, start, hstart, hfollow⟩ := Files.locate_ok hlocate
  exact locate_of_follow hnull ((h.start? p).trans hstart) (h.follow hname hfollow)

/-- Where a path with a plain last name leads to. -/
theorem getLast?_of_locate {last : String} (hlast : last ≠ "..") {names dest : List String}
    (hp : p.names = names ++ [last]) (h : files.locate p = .ok dest) :
    dest.getLast? = some last := by
  obtain ⟨-, start, -, hfollow⟩ := locate_ok h
  rw [hp] at hfollow
  obtain ⟨dir, -, -, rfl⟩ := follow_append_singleton hlast hfollow
  simp

/-- Whether a path can be seen from the root: it is absolute, or there is a working directory. -/
def Sees (files : Files) (p : Path) : Prop := p.isAbsolute = true ∨ files.here.isSome = true

instance (files : Files) (p : Path) : Decidable (files.Sees p) :=
  inferInstanceAs (Decidable (_ ∨ _))

theorem absolute_eq (h : files.Sees p) : files.absolute p = .ok (files.herePath.join p) := by
  rw [absolute, if_pos (by rwa [Bool.or_eq_true])]

theorem absolute_error (h : ¬ files.Sees p) : files.absolute p = .error .adrift := by
  rw [absolute, if_neg (by rwa [Bool.or_eq_true])]

theorem of_absolute_ok {q : Path} (h : files.absolute p = .ok q) :
    files.Sees p ∧ q = files.herePath.join p := by
  by_cases hsees : files.Sees p
  · exact ⟨hsees, Except.ok.inj (h.symm.trans (absolute_eq hsees))⟩
  · exact absurd ((absolute_error hsees).symm.trans h) (by simp)

/-- **A path has a URL** just if it can be seen from the root. -/
theorem url_eq (h : files.Sees p) : files.url p = .ok (Path.toUrl files.herePath p) := by
  rw [url, absolute_eq h]
  rfl

theorem url_error (h : ¬ files.Sees p) : files.url p = .error .adrift := by
  rw [url, absolute_error h]
  rfl

/-- **A path seen from the root** leads where the path itself does. -/
theorem locate_of_absolute (hup : ".." ∉ files.herePath.names) {q : Path} {dest : List String}
    (hq : files.absolute p = .ok q) (h : files.locate q = .ok dest) :
    files.locate p = .ok dest := by
  obtain ⟨hsees, rfl⟩ := of_absolute_ok hq
  rw [Path.join] at h
  split at h
  · exact h
  · rename_i hrelative
    obtain ⟨here, hhere⟩ := Option.isSome_iff_exists.mp (hsees.resolve_left hrelative)
    obtain ⟨hnull, start, hstart, hfollow⟩ := locate_ok h
    rw [List.any_append, Bool.or_eq_false_iff] at hnull
    obtain rfl : [] = start := Option.some.inj hstart
    have hnames : files.herePath.names = here := by rw [herePath, hhere, Option.getD_some]
    rw [hnames] at hup hfollow
    exact locate_of_follow hnull.2 ((if_neg hrelative).trans hhere) (follow_append hup hfollow)

/-! ## What stands at a place -/

theorem node?_of_locate {dest : List String} {node : Node} (h : files.locate p = .ok dest)
    (hat : files.at? dest = some node) : files.node? p = .ok node := by
  rw [node?, h]
  simp only [hat]

theorem exists_of_node?_ok {node : Node} (h : files.node? p = .ok node) :
    ∃ dest, files.locate p = .ok dest ∧ files.at? dest = some node := by
  rw [node?] at h
  split at h
  · exact absurd h (by simp)
  · split at h
    · exact ⟨_, ‹_›, by rw [‹files.at? _ = _›, Except.ok.inj h]⟩
    · exact absurd h (by simp)

/-- **Other places hold the same** in trees that differ under a name. -/
theorem AgreeOff.node?_ok (h : AgreeOff name files files')
    (hname : files.at? name ≠ some .directory) (hp : files.locate p ≠ .ok name) {node : Node}
    (hnode : files.node? p = .ok node) : files'.node? p = .ok node := by
  obtain ⟨dest, hlocate, hat⟩ := exists_of_node?_ok hnode
  have hne : dest ≠ name := fun heq => hp (heq ▸ hlocate)
  exact node?_of_locate (h.locate_ok hname hlocate) ((h.2 dest hne).trans hat)

theorem readBytes_ok_iff {bytes : List UInt8} :
    files.readBytes p = .ok bytes ↔ files.node? p = .ok (.file bytes) := by
  rw [readBytes]
  split <;> simp_all

theorem isFile_iff : files.isFile p = true ↔ ∃ bytes, files.readBytes p = .ok bytes := by
  simp only [readBytes_ok_iff]
  rw [isFile]
  split
  · exact ⟨fun _ => ⟨_, ‹_›⟩, fun _ => rfl⟩
  · rename_i hnot
    exact ⟨fun h => absurd h (by simp), fun ⟨bytes, h⟩ => absurd h (hnot bytes)⟩

theorem readBytes_of_absolute (hup : ".." ∉ files.herePath.names) {q : Path} {bytes : List UInt8}
    (hq : files.absolute p = .ok q) (h : files.readBytes q = .ok bytes) :
    files.readBytes p = .ok bytes := by
  obtain ⟨dest, hlocate, hat⟩ := exists_of_node?_ok (readBytes_ok_iff.mp h)
  exact readBytes_ok_iff.mpr (node?_of_locate (locate_of_absolute hup hq hlocate) hat)

/-- Above a file there is a directory. -/
theorem node?_of_readBytes {q : Path} {last : String} (hlast : last ≠ "..")
    (hslashes : q.slashes = p.slashes) (hnames : q.names = p.names ++ [last]) {bytes : List UInt8}
    (h : files.readBytes q = .ok bytes) : files.node? p = .ok .directory := by
  obtain ⟨dest, hlocate, -⟩ := exists_of_node?_ok (readBytes_ok_iff.mp h)
  obtain ⟨hnull, start, hstart, hfollow⟩ := locate_ok hlocate
  rw [hnames] at hnull hfollow
  rw [List.any_append, Bool.or_eq_false_iff] at hnull
  obtain ⟨dir, hdir, hat, -⟩ := follow_append_singleton hlast hfollow
  have hstart' : files.start? p = some start := by
    rwa [start?, Path.isAbsolute, hslashes] at hstart
  exact node?_of_locate (locate_of_follow hnull.1 hstart' hdir) hat

theorem AgreeOff.readBytes_ok (h : AgreeOff name files files')
    (hname : files.at? name ≠ some .directory) (hp : files.locate p ≠ .ok name)
    {bytes : List UInt8} (hread : files.readBytes p = .ok bytes) :
    files'.readBytes p = .ok bytes :=
  readBytes_ok_iff.mpr (h.node?_ok hname hp (readBytes_ok_iff.mp hread))

/-- Trees that differ under a name where neither has a directory, for a path that does not lead
there: **the same bytes can be read**. -/
theorem AgreeOff.readBytes_ok_iff (h : AgreeOff name files files')
    (hname : files.at? name ≠ some .directory) (hname' : files'.at? name ≠ some .directory)
    (hp : files.locate p ≠ .ok name) {bytes : List UInt8} :
    files'.readBytes p = .ok bytes ↔ files.readBytes p = .ok bytes :=
  ⟨h.symm.readBytes_ok hname' fun hlocate => hp (h.symm.locate_ok hname' hlocate),
    h.readBytes_ok hname hp⟩

/-- The same in another form: both can be read, with the same bytes, or neither. -/
theorem AgreeOff.readBytes_cases (h : AgreeOff name files files')
    (hname : files.at? name ≠ some .directory) (hname' : files'.at? name ≠ some .directory)
    (hp : files.locate p ≠ .ok name) :
    (∃ bytes, files.readBytes p = .ok bytes ∧ files'.readBytes p = .ok bytes) ∨
      ∃ flaw flaw', files.readBytes p = .error flaw ∧ files'.readBytes p = .error flaw' := by
  have hiff : ∀ bytes, files'.readBytes p = .ok bytes ↔ files.readBytes p = .ok bytes :=
    fun bytes => h.readBytes_ok_iff hname hname' hp
  cases hread : files.readBytes p with
  | ok bytes => exact .inl ⟨bytes, rfl, (hiff bytes).mpr hread⟩
  | error flaw =>
    cases hread' : files'.readBytes p with
    | ok bytes =>
      rw [(hiff bytes).mp hread'] at hread
      exact absurd hread (by simp)
    | error flaw' => exact .inr ⟨flaw, flaw', rfl, rfl⟩

theorem AgreeOff.isFile_eq (h : AgreeOff name files files')
    (hname : files.at? name ≠ some .directory) (hname' : files'.at? name ≠ some .directory)
    (hp : files.locate p ≠ .ok name) : files'.isFile p = files.isFile p := by
  rw [Bool.eq_iff_iff, isFile_iff, isFile_iff]
  simp only [h.readBytes_ok_iff hname hname' hp]

/-- A file that is gone cannot be read: its path led to the name that nothing stands under now. -/
theorem AgreeOff.readBytes_gone (h : AgreeOff name files files')
    (hgone : files'.at? name = none) (hp : files.locate p = .ok name) (bytes : List UInt8) :
    files'.readBytes p ≠ .ok bytes := by
  intro hread
  obtain ⟨dest, hlocate, hat⟩ := exists_of_node?_ok (Files.readBytes_ok_iff.mp hread)
  have hback : files.locate p = .ok dest := h.symm.locate_ok (by simp [hgone]) hlocate
  obtain rfl : name = dest := Except.ok.inj (hp.symm.trans hback)
  rw [hgone] at hat
  exact absurd hat (by simp)

/-! ## Free places -/

/-- Whether a path leads to a name under which nothing stands yet. -/
def IsFree (files : Files) (p : Path) (name : List String) : Prop :=
  files.locate p = .ok name ∧ files.at? name = none

theorem IsFree.ne_nil (h : files.IsFree p name) : name ≠ [] := by
  rintro rfl
  exact absurd h.2 (by simp [at?_nil])

theorem IsFree.ne_directory (h : files.IsFree p name) : files.at? name ≠ some .directory := by
  simp [h.2]

/-- Directories that are there need not be made. -/
theorem makeAlong_of_follow : ∀ {start names dir : List String},
    files.follow start names = .ok dir → files.at? dir = some .directory →
      files.makeAlong start names = (none, files)
  | start, [], dir, hfollow, hat => by
      obtain rfl := Except.ok.inj hfollow
      rw [makeAlong, hat]
  | start, next :: names, dir, hfollow, hat => by
      obtain ⟨hdir, hrest⟩ := follow_cons_ok hfollow
      rw [makeAlong, hdir]
      exact makeAlong_of_follow hrest hat

theorem makeDirectories_parent {last : String} (hlast : last ≠ "..") {names dest : List String}
    (hp : p.names = names ++ [last]) (h : files.locate p = .ok dest) :
    files.makeDirectories p.parent = (none, files) ∧
      files.at? dest.dropLast = some .directory := by
  obtain ⟨hnull, start, hstart, hfollow⟩ := locate_ok h
  rw [hp] at hfollow hnull
  obtain ⟨dir, hdir, hat, rfl⟩ := follow_append_singleton hlast hfollow
  refine ⟨?_, by rwa [List.dropLast_concat]⟩
  have hnames : p.parent.names = names := by
    rw [Path.parent, hp]
    exact List.dropLast_concat
  have hparent : files.start? p.parent = some start := hstart
  rw [List.any_append, Bool.or_eq_false_iff] at hnull
  rw [makeDirectories, hnames, if_neg (Bool.eq_false_iff.mp hnull.1), hparent]
  exact makeAlong_of_follow hdir hat

/-! ## Writing -/

theorem locate_of_target (h : files.target p = .ok name) :
    files.locate p = .ok name ∧ files.at? name ≠ some .directory := by
  rw [target] at h
  split at h
  · exact absurd h (by simp)
  · rename_i dest hlocate
    split at h
    · exact absurd h (by simp)
    · exact absurd h (by simp)
    · exact absurd h (by simp)
    all_goals
      split at h
      · exact absurd h (by simp)
      · obtain rfl := Except.ok.inj h
        exact ⟨hlocate, by simp [‹files.at? dest = _›]⟩

theorem fitting_of_none {bytes : List UInt8} (h : (files.fitting bytes).1 = none) :
    (files.fitting bytes).2 = bytes := by
  rw [fitting] at h ⊢
  cases hfull : files.full with
  | none => rfl
  | some n =>
    rw [hfull] at h
    have hle : bytes.length ≤ n := Decidable.byContradiction fun hlt =>
      absurd ((if_neg hlt).symm.trans h) (by simp)
    exact List.take_of_length_le hle

/-- **Writing without a flaw** puts the file under the name that its path leads to. -/
theorem exists_of_writeBytes {bytes : List UInt8} (h : (files.writeBytes p bytes).1 = none) :
    ∃ name, files.locate p = .ok name ∧ files.at? name ≠ some .directory ∧
      (files.writeBytes p bytes).2 = files.set name (.file bytes) := by
  rw [writeBytes] at h ⊢
  cases htarget : files.target p with
  | error flaw => exact absurd (htarget ▸ h) (by simp)
  | ok name =>
    rw [htarget] at h
    obtain ⟨hlocate, hdest⟩ := locate_of_target htarget
    exact ⟨name, hlocate, hdest, congrArg (files.set name ∘ Node.file) (fitting_of_none h)⟩

theorem writeAlong_of_make {bytes : List UInt8} (h : (files.writeAlong p bytes).1 = none) :
    ∃ made, files.makeDirectories p.parent = (none, made) ∧
      files.writeAlong p bytes = made.writeBytes p bytes := by
  rw [writeAlong] at h ⊢
  rcases hmake : files.makeDirectories p.parent with ⟨_ | flaw, made⟩
  · exact ⟨made, rfl, rfl⟩
  · rw [hmake] at h
    exact absurd h (by simp)

/-- **What was written can be read.** -/
theorem readBytes_set {dest : List String} (hlocate : files.locate p = .ok dest)
    (hdest : files.at? dest ≠ some .directory) (bytes : List UInt8) :
    (files.set dest (.file bytes)).readBytes p = .ok bytes := by
  have hne : dest ≠ [] := fun hnil => hdest (hnil ▸ at?_nil files)
  exact readBytes_ok_iff.mpr (node?_of_locate
    ((agreeOff_set files dest _).locate_ok hdest hlocate) (at?_set files hne _))

theorem readBytes_writeAlong {bytes : List UInt8} (h : (files.writeAlong p bytes).1 = none) :
    (files.writeAlong p bytes).2.readBytes p = .ok bytes := by
  obtain ⟨made, -, heq⟩ := writeAlong_of_make h
  rw [heq] at h ⊢
  obtain ⟨name, hlocate, hdest, hset⟩ := exists_of_writeBytes h
  rw [hset]
  exact readBytes_set hlocate hdest bytes

/-- **Writing to a free place** puts the file under its name, and changes nothing else. -/
theorem writeAlong_free {last : String} (hlast : last ≠ "..") {names : List String}
    (hp : p.names = names ++ [last]) (hfree : files.IsFree p name) {bytes : List UInt8}
    (h : (files.writeAlong p bytes).1 = none) :
    (files.writeAlong p bytes).2 = files.set name (.file bytes) := by
  obtain ⟨made, hmake, heq⟩ := writeAlong_of_make h
  obtain ⟨hmade, -⟩ := makeDirectories_parent hlast hp hfree.1
  obtain rfl : files = made := congrArg Prod.snd (hmade.symm.trans hmake)
  rw [heq] at h ⊢
  obtain ⟨dest, hlocate, -, hset⟩ := exists_of_writeBytes h
  obtain rfl : name = dest := Except.ok.inj (hfree.1.symm.trans hlocate)
  exact hset

end Gazetteer.Files
