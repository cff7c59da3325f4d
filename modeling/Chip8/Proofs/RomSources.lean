/-
  What becomes of a source that is read.

  A source HOLDS a program if it is one, if the file that it names has it for its content, or if the reader
  gives it.  It FAILS if something goes wrong that callers do not look for: a NUL in the name of a file, a
  reader that fails in a way of its own, or one that cannot be asked.  Reading yields what the source holds and
  hands on what fails; every other source is an error of the one kind that callers look for.

  What a file holds is a matter of the files and folders alone: `Opens` says that every place on the way is a
  folder and that the file lies at the place to which the name leads.  That files are opened exactly so is
  `openFile_eq_ok_iff`, and `followAll_eq_ok_iff` is the induction on the parts of a name.  A path value is
  normalized before, which neither brings a NUL into its name nor takes one out (`mem_normalize_iff`).
-/
import Chip8.Proofs.Requests

namespace Chip8

/-! ## Names -/

namespace PathName

variable {c : Char} {name : String}

theorem mem_join : ∀ {ps : List (List Char)}, c ∈ join ps → c = '/' ∨ ∃ p ∈ ps, c ∈ p
  | [], member => absurd member List.not_mem_nil
  | [p], member => Or.inr ⟨p, List.mem_cons_self, member⟩
  | p :: q :: ps, member => by
    rw [join, List.mem_append, List.mem_cons] at member
    rcases member with member | slash | member
    · exact Or.inr ⟨p, List.mem_cons_self, member⟩
    · exact Or.inl slash
    · rcases mem_join member with slash | ⟨r, part, member⟩
      · exact Or.inl slash
      · exact Or.inr ⟨r, List.mem_cons_of_mem p part, member⟩

theorem mem_join_of_mem : ∀ {ps : List (List Char)} {p : List Char}, p ∈ ps → c ∈ p → c ∈ join ps
  | [q], p, part, member => by
    rw [List.mem_singleton.mp part] at member
    exact member
  | q :: r :: ps, p, part, member => by
    rw [join, List.mem_append, List.mem_cons]
    rcases List.mem_cons.mp part with rfl | part
    · exact Or.inl member
    · exact Or.inr (Or.inr (mem_join_of_mem part member))

theorem mem_root {name : List Char} (member : c ∈ root name) : c = '/' := by
  unfold root at member
  split at member <;> simp_all

theorem mem_of_mem_steps {p : List Char} (step : p ∈ steps name.toList) (member : c ∈ p) :
    c ∈ name.toList := by
  have part : p ∈ parts name.toList := (List.mem_filter.mp (List.mem_filter.mp step).1).1
  rw [← join_parts name.toList]
  exact mem_join_of_mem part member

theorem mem_steps_of_mem {p : List Char} (part : p ∈ parts name.toList) (member : c ∈ p) (point : c ≠ '.') :
    p ∈ steps name.toList := by
  have nonempty : p ≠ [] := List.ne_nil_of_mem member
  have other : p ≠ here := by
    rintro rfl
    exact point (List.mem_singleton.mp member)
  refine List.mem_filter.mpr ⟨List.mem_filter.mpr ⟨part, ?_⟩, bne_iff_ne.mpr other⟩
  rw [Bool.not_eq_true', List.isEmpty_eq_false_iff]
  exact nonempty

/-- Normalizing a name takes nothing but slashes and points out of it, and brings nothing else in. -/
theorem mem_normalize_iff (slash : c ≠ '/') (point : c ≠ '.') :
    c ∈ (normalize name).toList ↔ c ∈ name.toList := by
  have joined : c ∈ root name.toList ++ join (steps name.toList) ↔ c ∈ name.toList := by
    constructor
    · intro member
      rcases List.mem_append.mp member with member | member
      · exact absurd (mem_root member) slash
      · rcases mem_join member with between | ⟨p, step, member⟩
        · exact absurd between slash
        · exact mem_of_mem_steps step member
    · intro member
      rw [← join_parts name.toList] at member
      rcases mem_join member with between | ⟨p, part, member⟩
      · exact absurd between slash
      · exact List.mem_append_right _ (mem_join_of_mem (mem_steps_of_mem part member point) member)
  rw [← joined, normalize]
  split
  · rename_i empty
    rw [empty]
    exact iff_of_false (fun member => point (List.mem_singleton.mp member)) List.not_mem_nil
  · rw [String.toList_ofList]

end PathName

/-! ## Files -/

namespace Directory

variable {d : Directory} {place goal : List (List Char)} {part : List Char} {content : Bytes} {name : String}

/-- Whether a file of this content lies at a place: the first of the files whose names stand for it. -/
def Lies (d : Directory) (place : List (List Char)) (content : Bytes) : Prop :=
  ∃ earlier name later, d.files = earlier ++ (name, content) :: later ∧ d.place name = place ∧
    ∀ f ∈ earlier, d.place f.1 ≠ place

/-- Whether a place is on the way to a known one, or is one. -/
def Exists (d : Directory) (place : List (List Char)) : Prop := ∃ p ∈ d.known, place <+: p

/-- Whether a place is that of a folder. -/
def IsFolder (d : Directory) (place : List (List Char)) : Prop :=
  (∀ f ∈ d.files, d.place f.1 ≠ place) ∧ d.Exists place

/-- Whether a name opens a file of this content.  The name has to be one of a file, neither it nor a part of
    it may be too long, all places that its parts lead to on the way have to be folders, and at the last of
    them the file has to lie. -/
structure Opens (d : Directory) (name : String) (content : Bytes) : Prop where
  nonempty : name ≠ ""
  short : byteLength name.toList ≤ 4095
  unslashed : name.toList.getLast? ≠ some '/'
  parts : ∀ part ∈ PathName.proper name.toList, byteLength part ≤ 255
  way : ∀ before part after, PathName.proper name.toList = before ++ part :: after →
    d.IsFolder (PathName.leads (d.start name) before)
  file : d.Lies (d.place name) content

theorem node?_eq_file_iff : d.node? place = some (.file content) ↔ d.Lies place content := by
  have find : (∃ name, d.files.find? (fun f => d.place f.1 == place) = some (name, content)) ↔
      d.Lies place content := by
    simp only [List.find?_eq_some_iff_append, Lies, beq_iff_eq, Bool.not_eq_true', beq_eq_false_iff_ne]
    constructor
    · rintro ⟨name, here, earlier, later, split, first⟩
      exact ⟨earlier, name, later, split, here, first⟩
    · rintro ⟨earlier, name, later, split, here, first⟩
      exact ⟨name, here, earlier, later, split, first⟩
  rw [← find, node?]
  cases found : d.files.find? fun f => d.place f.1 == place with
  | none =>
    dsimp only
    split <;> simp
  | some f =>
    obtain ⟨name, content'⟩ := f
    simp

theorem any_known_iff : (d.known.any fun p => place.isPrefixOf p) = true ↔ d.Exists place := by
  simp only [List.any_eq_true, List.isPrefixOf_iff_prefix, Exists]

theorem node?_eq_folder_iff : d.node? place = some .folder ↔ d.IsFolder place := by
  rw [node?, IsFolder, ← any_known_iff]
  cases found : d.files.find? fun f => d.place f.1 == place with
  | none =>
    have empty : ∀ f ∈ d.files, d.place f.1 ≠ place := by
      intro f member here
      exact List.find?_eq_none.mp found f member (beq_iff_eq.mpr here)
    dsimp only
    split
    · rename_i known
      exact ⟨fun _ => ⟨empty, known⟩, fun _ => rfl⟩
    · rename_i unknown
      exact ⟨nofun, fun ⟨_, known⟩ => absurd known unknown⟩
  | some f =>
    have same := List.find?_some found
    exact ⟨nofun, fun ⟨empty, _⟩ => absurd (eq_of_beq same) (empty f (List.mem_of_find?_eq_some found))⟩

theorem Lies.exists (lies : d.Lies place content) : d.Exists place := by
  obtain ⟨earlier, name, later, split, rfl, -⟩ := lies
  refine ⟨d.place name, ?_, List.prefix_rfl⟩
  refine List.mem_cons_of_mem _ (List.mem_map_of_mem (List.mem_append_left _ ?_))
  rw [split]
  exact List.mem_map.mpr ⟨(name, content), List.mem_append_right _ List.mem_cons_self, rfl⟩

theorem isSome_node?_iff : (d.node? place).isSome = true ↔ d.Exists place := by
  constructor
  · intro something
    obtain ⟨node, there⟩ := Option.isSome_iff_exists.mp something
    cases node with
    | file content => exact (node?_eq_file_iff.mp there).exists
    | folder => exact (node?_eq_folder_iff.mp there).2
  · intro known
    rw [node?]
    cases d.files.find? fun f => d.place f.1 == place with
    | none =>
      dsimp only
      rw [if_pos (any_known_iff.mpr known)]
      rfl
    | some f => rfl

theorem byteLength_here : byteLength PathName.here ≤ 255 := by decide +kernel

theorem byteLength_above : byteLength PathName.above ≤ 255 := by decide +kernel

/-- What is on the way to a place that exists, exists. -/
theorem Exists.dropLast (known : d.Exists place) : d.Exists place.dropLast := by
  obtain ⟨p, member, le⟩ := known
  exact ⟨p, member, (List.dropLast_prefix place).trans le⟩

/-- One part leads on from a folder, to a place that exists. -/
theorem follow_eq_ok_iff : d.follow place part = .ok goal ↔
    d.IsFolder place ∧ byteLength part ≤ 255 ∧ goal = PathName.leads place [part] ∧ d.Exists goal := by
  by_cases folder : d.IsFolder place
  · rw [follow, node?_eq_folder_iff.mpr folder, PathName.leads, PathName.leads]
    dsimp only
    by_cases here : part = PathName.here
    · rw [if_pos here, if_pos here, here]
      constructor
      · rintro ⟨⟩
        exact ⟨folder, byteLength_here, rfl, folder.2⟩
      · rintro ⟨-, -, rfl, -⟩
        rfl
    by_cases above : part = PathName.above
    · rw [if_neg here, if_pos above, if_neg here, if_pos above, above]
      constructor
      · rintro ⟨⟩
        exact ⟨folder, byteLength_above, rfl, folder.2.dropLast⟩
      · rintro ⟨-, -, rfl, -⟩
        rfl
    rw [if_neg here, if_neg above, if_neg here, if_neg above]
    constructor
    · intro followed
      split at followed
      · cases followed
      split at followed
      · rename_i short known
        cases followed
        exact ⟨folder, Nat.not_lt.mp short, rfl, isSome_node?_iff.mp known⟩
      · cases followed
    · rintro ⟨-, short, rfl, known⟩
      rw [if_neg (Nat.not_lt.mpr short), if_pos (isSome_node?_iff.mpr known)]
  · refine iff_of_false ?_ fun followed => folder followed.1
    rw [follow]
    split
    · exact nofun
    · exact nofun
    · rename_i node
      exact absurd (node?_eq_folder_iff.mp node) folder

/-- Parts lead to a place if every place on the way is a folder, by induction on the parts. -/
theorem followAll_eq_ok_iff : ∀ {parts place : List (List Char)}, d.Exists place →
    (d.followAll place parts = .ok goal ↔
      (∀ part ∈ parts, byteLength part ≤ 255) ∧
      (∀ before part after, parts = before ++ part :: after → d.IsFolder (PathName.leads place before)) ∧
      goal = PathName.leads place parts ∧ d.Exists goal) := by
  intro parts
  induction parts with
  | nil =>
    intro place known
    rw [followAll, PathName.leads]
    constructor
    · rintro ⟨⟩
      exact ⟨nofun, fun before part after split => absurd split (by simp), rfl, known⟩
    · rintro ⟨-, -, rfl, -⟩
      rfl
  | cons part rest ih =>
    intro place known
    rw [followAll]
    constructor
    · intro followed
      cases step : d.follow place part with
      | error e =>
        rw [step] at followed
        cases followed
      | ok next =>
        rw [step] at followed
        obtain ⟨folder, short, rfl, known⟩ := follow_eq_ok_iff.mp step
        obtain ⟨shorts, way, rfl, known⟩ := (ih known).mp followed
        refine ⟨List.forall_mem_cons.mpr ⟨short, shorts⟩, ?_, rfl, known⟩
        intro before part' after split
        -- the place is that of the first part, or one on the way from there
        rcases List.append_eq_cons_iff.mp split.symm with ⟨rfl, -⟩ | ⟨before, rfl, later⟩
        · exact folder
        · exact way before part' after later
    · rintro ⟨shorts, way, rfl, known⟩
      obtain ⟨short, shorts⟩ := List.forall_mem_cons.mp shorts
      have folder : d.IsFolder place := way [] part rest rfl
      have onward : ∀ before part' after, rest = before ++ part' :: after →
          d.IsFolder (PathName.leads place (part :: before)) := by
        intro before part' after split
        exact way (part :: before) part' after (by rw [split]; rfl)
      have next : d.Exists (PathName.leads place [part]) := by
        rcases rest with _ | ⟨part', after⟩
        · exact known
        · exact (onward [] part' after rfl).2
      rw [follow_eq_ok_iff.mpr ⟨folder, short, rfl, next⟩]
      exact (ih next).mpr ⟨shorts, onward, rfl, known⟩

theorem exists_start (d : Directory) (name : String) : d.Exists (d.start name) := by
  refine ⟨d.base, List.mem_cons_self, ?_⟩
  rw [start]
  split
  · exact List.nil_prefix
  · exact List.prefix_rfl

/-- **A file is opened** under the names that lead to it over folders, and under no others. -/
theorem openFile_eq_ok_iff : d.openFile name = .ok content ↔ d.Opens name content := by
  rw [openFile]
  constructor
  · intro opened
    split at opened
    · cases opened
    split at opened
    · cases opened
    rename_i nonempty short
    split at opened
    · cases opened
    rename_i goal followed
    obtain ⟨parts, way, rfl, -⟩ := (followAll_eq_ok_iff (exists_start d name)).mp followed
    split at opened
    · rename_i content' node
      split at opened
      · cases opened
      · rename_i unslashed
        cases opened
        refine ⟨?_, Nat.not_lt.mp short, unslashed, parts, way, node?_eq_file_iff.mp node⟩
        rintro rfl
        exact nonempty rfl
    · cases opened
    · cases opened
  · rintro ⟨nonempty, short, unslashed, parts, way, file⟩
    rw [if_neg (by rwa [List.isEmpty_iff, String.toList_eq_nil_iff]), if_neg (Nat.not_lt.mpr short),
      (followAll_eq_ok_iff (exists_start d name)).mpr ⟨parts, way, rfl, file.exists⟩]
    have node : d.node? (PathName.leads (d.start name) (PathName.proper name.toList)) =
        some (.file content) := node?_eq_file_iff.mpr file
    dsimp only
    rw [node]
    dsimp only
    rw [if_neg unslashed]

end Directory

/-! ## Sources -/

namespace Source

/-- What a source holds. -/
inductive Holds (d : Directory) : Source → Bytes → Prop
  /-- It is the program itself. -/
  | bytes (program : Bytes) : Holds d (.bytes program) program
  /-- It names a file with the program. -/
  | file {name : String} {program : Bytes} (clean : '\x00' ∉ name.toList) (opens : d.Opens name program) :
    Holds d (.file name) program
  /-- It is the path of a file with the program. -/
  | path {name : String} {program : Bytes} (clean : '\x00' ∉ name.toList)
    (opens : d.Opens (PathName.normalize name) program) : Holds d (.path name) program
  /-- Its reader gives the program. -/
  | reader (type shown : String) (program : Bytes) : Holds d (.reader type shown (.bytes program)) program

/-- The text of a failure that callers do not look for. -/
inductive Fails : Source → String → Prop
  /-- There is a NUL in the name of the file. -/
  | file {name : String} (nul : '\x00' ∈ name.toList) : Fails (.file name) "embedded null byte"
  /-- There is a NUL in the path of the file. -/
  | path {name : String} (nul : '\x00' ∈ name.toList) : Fails (.path name) "embedded null byte"
  /-- The failure is the reader's own. -/
  | reader (type shown text : String) : Fails (.reader type shown (.failure text)) text
  /-- There is no reader to be asked. -/
  | unasked (type : String) : Fails (.unasked type) s!"'{type}' object is not callable"

variable {d : Directory} {s : Source} {name : String} {program : Bytes} {text : String}

theorem readFile_of_nul (nul : '\x00' ∈ name.toList) (d : Directory) (shown : String) :
    readFile d shown name = .error (.other "embedded null byte") :=
  if_pos (List.contains_iff_mem.mpr nul)

theorem readFile_of_clean (clean : '\x00' ∉ name.toList) (d : Directory) (shown : String) :
    (∃ program, d.Opens name program) ∨ ∃ e, readFile d shown name = .error (.rom e) := by
  rw [readFile, if_neg (mt List.contains_iff_mem.mp clean)]
  cases opened : d.openFile name with
  | ok program => exact Or.inl ⟨program, Directory.openFile_eq_ok_iff.mp opened⟩
  | error e => exact Or.inr ⟨_, rfl⟩

theorem readFile_of_opens (clean : '\x00' ∉ name.toList) (opens : d.Opens name program) (shown : String) :
    readFile d shown name = .ok program := by
  rw [readFile, if_neg (mt List.contains_iff_mem.mp clean), Directory.openFile_eq_ok_iff.mpr opens]

/-- A path value keeps the NUL of its name, or its being without one. -/
theorem nul_mem_normalize_iff : '\x00' ∈ (PathName.normalize name).toList ↔ '\x00' ∈ name.toList :=
  PathName.mem_normalize_iff (by decide) (by decide)

theorem read_of_holds (holds : s.Holds d program) : s.read d = .ok program := by
  cases holds with
  | bytes => rfl
  | file clean opens => exact readFile_of_opens clean opens _
  | path clean opens => exact readFile_of_opens (mt nul_mem_normalize_iff.mp clean) opens _
  | reader => rfl

theorem read_of_fails (fails : s.Fails text) (d : Directory) : s.read d = .error (.other text) := by
  cases fails with
  | file nul => exact readFile_of_nul nul d _
  | path nul => exact readFile_of_nul (nul_mem_normalize_iff.mpr nul) d _
  | reader => rfl
  | unasked => rfl

/-- Reading comes to one of three things. -/
theorem read_cases (s : Source) (d : Directory) :
    (∃ program, s.Holds d program ∧ s.read d = .ok program) ∨
      (∃ text, s.Fails text ∧ s.read d = .error (.other text)) ∨ ∃ e, s.read d = .error (.rom e) := by
  have yields : ∀ {program}, s.Holds d program →
      ∃ program, s.Holds d program ∧ s.read d = .ok program :=
    fun holds => ⟨_, holds, read_of_holds holds⟩
  have hands : ∀ {text}, s.Fails text → ∃ text, s.Fails text ∧ s.read d = .error (.other text) :=
    fun fails => ⟨_, fails, read_of_fails fails d⟩
  cases s with
  | bytes program => exact Or.inl (yields (.bytes program))
  | other type => exact Or.inr (Or.inr ⟨.notReader type, rfl⟩)
  | unasked type => exact Or.inr (Or.inl (hands (.unasked type)))
  | file name =>
    by_cases nul : '\x00' ∈ name.toList
    · exact Or.inr (Or.inl (hands (.file nul)))
    rcases readFile_of_clean nul d (Quoted.encode name) with ⟨program, opens⟩ | ⟨e, refused⟩
    · exact Or.inl (yields (.file nul opens))
    · exact Or.inr (Or.inr ⟨_, refused⟩)
  | path name =>
    by_cases nul : '\x00' ∈ name.toList
    · exact Or.inr (Or.inl (hands (.path nul)))
    rcases readFile_of_clean (mt nul_mem_normalize_iff.mp nul) d
        ("PurePosixPath(" ++ Quoted.encode (PathName.normalize name) ++ ")") with
      ⟨program, opens⟩ | ⟨e, refused⟩
    · exact Or.inl (yields (.path nul opens))
    · exact Or.inr (Or.inr ⟨_, refused⟩)
  | reader type shown outcome =>
    cases outcome with
    | bytes program => exact Or.inl (yields (.reader type shown program))
    | failure text => exact Or.inr (Or.inl (hands (.reader type shown text)))
    | value given => exact Or.inr (Or.inr ⟨.notBytes given, rfl⟩)
    | systemError text => exact Or.inr (Or.inr ⟨.cannotRead shown text, rfl⟩)
    | notReader => exact Or.inr (Or.inr ⟨.notReader type, rfl⟩)

theorem read_eq_ok_iff : s.read d = .ok program ↔ s.Holds d program := by
  refine ⟨fun read => ?_, read_of_holds⟩
  rcases read_cases s d with ⟨_, holds, read'⟩ | ⟨_, -, read'⟩ | ⟨_, read'⟩ <;>
    cases read.symm.trans read'
  exact holds

theorem read_eq_other_iff : s.read d = .error (.other text) ↔ s.Fails text := by
  refine ⟨fun read => ?_, fun fails => read_of_fails fails d⟩
  rcases read_cases s d with ⟨_, -, read'⟩ | ⟨_, fails, read'⟩ | ⟨_, read'⟩ <;>
    cases read.symm.trans read'
  exact fails

/-- A source is refused if it holds nothing and does not fail. -/
theorem read_eq_rom_iff (s : Source) (d : Directory) :
    (∃ e, s.read d = .error (.rom e)) ↔
      (∀ program, ¬ s.Holds d program) ∧ ∀ text, ¬ s.Fails text := by
  constructor
  · rintro ⟨e, read⟩
    constructor
    · intro program holds
      cases read.symm.trans (read_of_holds holds)
    · intro text fails
      cases read.symm.trans (read_of_fails fails d)
  · rintro ⟨nothing, sound⟩
    rcases read_cases s d with ⟨program, holds, -⟩ | ⟨text, fails, -⟩ | refused
    · exact absurd holds (nothing program)
    · exact absurd fails (sound text)
    · exact refused

/-- **What reading comes to.**  What is read is what the source holds.  A NUL in the name of a file, a
    reader's own failure and one that cannot be asked are handed on as they are.  Every other source that
    holds nothing is refused with an error that callers look for.  A machine which is given a source to load
    has loaded what the source holds, or it says what went wrong and stays as it is. -/
theorem read_or_refused (s : Source) (d : Directory) :
    (∀ program, s.read d = .ok program ↔ s.Holds d program) ∧
    (∀ text, s.read d = .error (.other text) ↔ s.Fails text) ∧
    ((∃ e, s.read d = .error (.rom e)) ↔
      (∀ program, ¬ s.Holds d program) ∧ ∀ text, ¬ s.Fails text) ∧
    ∀ (m : Machine) (threshold : Log.Level) (devices : Devices),
      let reply := m.serve threshold devices (.load d s)
      (∃ program, s.Holds d program ∧ reply.refusal = none ∧ reply.machine = m.load program) ∨
        (∀ program, ¬ s.Holds d program) ∧
          ∃ e, s.read d = .error e ∧ reply = ⟨m, devices, some (.unread e), []⟩ := by
  refine ⟨fun _ => read_eq_ok_iff, fun _ => read_eq_other_iff, read_eq_rom_iff s d, ?_⟩
  intro m threshold devices reply
  cases read : s.read d with
  | ok program =>
    have served : reply = _ := Machine.serve_load_of_read read
    rw [served]
    exact Or.inl ⟨program, read_eq_ok_iff.mp read, rfl, rfl⟩
  | error e =>
    refine Or.inr ⟨?_, e, rfl, Machine.serve_load_of_unread read⟩
    intro program holds
    cases read.symm.trans (read_of_holds holds)

/-- A file that four names lead to, and a name that asks for a folder where the file is. -/
theorem read_or_refused_of_names :
    let d : Directory := { files := [("/games/maze.ch8", #[0x12, 0x00])], folders := ["saves"] }
    let found : List Source := [.file "/games/maze.ch8", .file "saves/../../../games/maze.ch8",
      .file "../../../../games/./maze.ch8", .path "//games/.//maze.ch8"]
    let folder : Source := .file "/games/maze.ch8/"
    (∀ s ∈ found, s.Holds d #[0x12, 0x00]) ∧ ∀ program, ¬ folder.Holds d program := by
  intro d found folder
  constructor
  · have read : ∀ s ∈ found, s.read d = .ok #[0x12, 0x00] := by
      simp only [found, List.forall_mem_cons]
      refine ⟨?_, ?_, ?_, ?_, List.forall_mem_nil _⟩ <;> decide +kernel
    intro s member
    exact ((read_or_refused s d).1 _).mp (read s member)
  · have refused : folder.read d =
        .error (.rom (.cannotOpen "'/games/maze.ch8/'" "/games/maze.ch8/" .notFolder)) := by
      decide +kernel
    exact ((read_or_refused folder d).2.2.1.mp ⟨_, refused⟩).1

/-- Not every failure is one that callers look for. -/
theorem read_of_a_name_with_a_nul :
    let closed : ReaderOutcome := .failure "read of closed file"
    let failing : List Source := [.file "game\x00.ch8", .reader "Reader" "<Reader>" closed, .unasked "int"]
    ∀ s ∈ failing, (∀ program, s.read {} ≠ .ok program) ∧ ∀ e, s.read {} ≠ .error (.rom e) := by
  intro closed failing
  have nul : '\x00' ∈ "game\x00.ch8".toList := by decide +kernel
  have handed : ∀ s ∈ failing, ∃ text, s.read {} = .error (.other text) := by
    simp only [failing, List.forall_mem_cons]
    exact ⟨⟨_, read_of_fails (.file nul) {}⟩, ⟨_, rfl⟩, ⟨_, rfl⟩, List.forall_mem_nil _⟩
  intro s member
  obtain ⟨text, read⟩ := handed s member
  rw [read]
  exact ⟨nofun, nofun⟩

end Source

end Chip8
