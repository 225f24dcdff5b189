/-
  Files that several processes share.

  A name stands for a file, and an open file is a file and no name: after a name was given to
  another file, whoever has the old one open goes on writing to the old one.  So there are files by
  number, names that stand for them, and for every process its open files.

  1. **Two names, two files** (`Apart`): no operation of the kind processes use here makes two names
     of one file.

  2. **Effects** (`file?_create`, `file?_openToAppend`, `file?_write`, `file?_rename`): each
     operation as an equation for what stands under any name afterwards.  A name that is none of
     the operation's stays as it is (`SameAt`).
-/
import Mathlib.Logic.Function.Basic
import Interposition.Host.Program

namespace Interposition

/-- An open file: which one, and where the next write goes. -/
structure OpenFile where
  node : Nat
  appending : Bool
  offset : Nat

/-- Files, their names, and who has which of them open. -/
structure SharedFiles (Party : Type) where
  /-- The file that a name stands for. -/
  names : Path → Option Nat
  /-- The bytes of a file. -/
  contents : Nat → List UInt8
  /-- The number of the next file that is made. -/
  fresh : Nat
  opened : Party → FileHandle → Option OpenFile

namespace SharedFiles

variable {Party : Type} {files other : SharedFiles Party} {path : Path}

/-! ## What stands under a name -/

/-- The bytes of the file under a name. -/
def file? (files : SharedFiles Party) (path : Path) : Option (List UInt8) :=
  (files.names path).map files.contents

/-- What reading a file by its name comes to. -/
def reading (files : SharedFiles Party) (path : Path) : Except IoError (List UInt8) :=
  match files.file? path with
  | some bytes => .ok bytes
  | none => .error (.os .enoent)

theorem reading_eq_ok_iff {Party : Type} {files : SharedFiles Party} {path : Path}
    {bytes : List UInt8} : files.reading path = .ok bytes ↔ files.file? path = some bytes := by
  unfold reading
  cases files.file? path <;> simp

/-- A name stands for the same file, and the file has the same bytes. -/
structure SameAt (files other : SharedFiles Party) (path : Path) : Prop where
  names : other.names path = files.names path
  file? : other.file? path = files.file? path

namespace SameAt

theorem refl (files : SharedFiles Party) (path : Path) : files.SameAt files path := ⟨rfl, rfl⟩

theorem trans {third : SharedFiles Party} (h : files.SameAt other path)
    (h' : other.SameAt third path) : files.SameAt third path :=
  ⟨h'.names.trans h.names, h'.file?.trans h.file?⟩

end SameAt

/-- A process has the file of a name open, and what it writes next goes behind what is there. -/
def AtEnd (files : SharedFiles Party) (party : Party) (handle : FileHandle) (path : Path)
    (content : List UInt8) : Prop :=
  ∃ file, files.opened party handle = some file ∧ files.names path = some file.node ∧
    files.file? path = some content ∧ (file.appending = true ∨ file.offset = content.length)

theorem AtEnd.file? {party : Party} {handle : FileHandle} {content : List UInt8}
    (h : files.AtEnd party handle path content) : files.file? path = some content := by
  obtain ⟨-, -, -, hfile, -⟩ := h
  exact hfile

theorem AtEnd.of_sameAt {party : Party} {handle : FileHandle} {content : List UInt8}
    (h : files.AtEnd party handle path content)
    (hopened : other.opened party = files.opened party) (hsame : files.SameAt other path) :
    other.AtEnd party handle path content := by
  unfold AtEnd
  rw [hopened, hsame.names, hsame.file?]
  exact h

/-- Two names stand for two files, and the next file is a new one. -/
structure Apart (files : SharedFiles Party) : Prop where
  eq_of_names : ∀ {p q node}, files.names p = some node → files.names q = some node → p = q
  made : ∀ {p node}, files.names p = some node → node < files.fresh

/-- A file written to under one name is not seen under another. -/
theorem map_contents_update (h : files.Apart) {node : Nat} (hnode : files.names path = some node)
    {q : Path} (hq : q ≠ path) (bytes : List UInt8) :
    (files.names q).map (Function.update files.contents node bytes) = files.file? q := by
  unfold file?
  cases hname : files.names q with
  | none => rfl
  | some other =>
    have hne : other ≠ node := fun heq => hq (h.eq_of_names (heq ▸ hname) hnode)
    rw [Option.map_some, Option.map_some, Function.update_of_ne hne]

/-! ### Finding a file -/

/-- The files with a new file, empty, under a name. -/
def make (files : SharedFiles Party) (path : Path) : SharedFiles Party :=
  { files with
    names := Function.update files.names path (some files.fresh)
    contents := Function.update files.contents files.fresh []
    fresh := files.fresh + 1 }

/-- The file under a name, made if there is none, and the files with it. -/
def find (files : SharedFiles Party) (path : Path) : Nat × SharedFiles Party :=
  match files.names path with
  | some node => (node, files)
  | none => (files.fresh, files.make path)

theorem find_of_some {node : Nat} (h : files.names path = some node) :
    files.find path = (node, files) := by
  unfold find
  rw [h]

theorem find_of_none (h : files.names path = none) :
    files.find path = (files.fresh, files.make path) := by
  unfold find
  rw [h]

/-- The file that was found, or made, has the name. -/
theorem names_find (files : SharedFiles Party) (path : Path) :
    (files.find path).2.names path = some (files.find path).1 := by
  cases hname : files.names path with
  | none =>
    rw [find_of_none hname]
    exact Function.update_self ..
  | some node =>
    rw [find_of_some hname]
    exact hname

theorem opened_find (files : SharedFiles Party) (path : Path) :
    (files.find path).2.opened = files.opened := by
  unfold find
  cases files.names path <;> rfl

theorem file?_find (files : SharedFiles Party) (path : Path) :
    (files.find path).2.file? path = some ((files.file? path).getD []) := by
  cases hname : files.names path with
  | none =>
    rw [find_of_none hname]
    simp [file?, make, hname]
  | some node =>
    rw [find_of_some hname]
    simp [file?, hname]

theorem sameAt_find (h : files.Apart) {q : Path} (hq : q ≠ path) :
    files.SameAt (files.find path).2 q := by
  cases hname : files.names path with
  | some node =>
    rw [find_of_some hname]
    exact .refl files q
  | none =>
    rw [find_of_none hname]
    refine ⟨Function.update_of_ne hq _ _, ?_⟩
    show (Function.update files.names path (some files.fresh) q).map
      (Function.update files.contents files.fresh []) = files.file? q
    rw [Function.update_of_ne hq]
    unfold file?
    cases hq' : files.names q with
    | none => rfl
    | some node =>
      have hne : node ≠ files.fresh := Nat.ne_of_lt (h.made hq')
      rw [Option.map_some, Option.map_some, Function.update_of_ne hne]

/-- A new file has one name. -/
theorem Apart.make (h : files.Apart) (path : Path) : (files.make path).Apart := by
  have hmade {p : Path} {node : Nat} (hp : (files.make path).names p = some node) :
      p = path ∧ node = files.fresh ∨ files.names p = some node := by
    have hp : Function.update files.names path (some files.fresh) p = some node := hp
    by_cases heq : p = path
    · rw [heq, Function.update_self] at hp
      exact .inl ⟨heq, (Option.some.inj hp).symm⟩
    · rw [Function.update_of_ne heq] at hp
      exact .inr hp
  constructor
  · intro p q node hp hq
    rcases hmade hp with ⟨hpath, hnode⟩ | hp <;> rcases hmade hq with ⟨hpath', hnode'⟩ | hq
    · exact hpath.trans hpath'.symm
    · exact absurd (hnode ▸ h.made hq) (Nat.lt_irrefl _)
    · exact absurd (hnode' ▸ h.made hp) (Nat.lt_irrefl _)
    · exact h.eq_of_names hp hq
  · intro p node hp
    show node < files.fresh + 1
    rcases hmade hp with ⟨-, hnode⟩ | hp
    · rw [hnode]
      exact Nat.lt_succ_self _
    · exact Nat.lt_succ_of_lt (h.made hp)

theorem Apart.find (h : files.Apart) (path : Path) : (files.find path).2.Apart := by
  cases hname : files.names path with
  | some node =>
    rw [find_of_some hname]
    exact h
  | none =>
    rw [find_of_none hname]
    exact h.make path

/-! ### Renaming -/

/-- A file given another name, in place of the file that had it. -/
def rename (files : SharedFiles Party) (source target : Path) : SharedFiles Party :=
  if source = target then files
  else
    { files with
      names := Function.update (Function.update files.names target (files.names source))
        source none }

/-- **Renaming**: the file is under the new name, and nothing is under the old one. -/
theorem file?_rename {source target : Path} (hne : source ≠ target) :
    (files.rename source target).file? target = files.file? source ∧
      (files.rename source target).file? source = none := by
  unfold rename file?
  rw [if_neg hne]
  constructor
  · show (Function.update (Function.update files.names target (files.names source)) source none
      target).map files.contents = _
    rw [Function.update_of_ne (Ne.symm hne), Function.update_self]
  · show (Function.update (Function.update files.names target (files.names source)) source none
      source).map files.contents = none
    rw [Function.update_self]
    rfl

theorem sameAt_rename {source target q : Path} (hsource : q ≠ source) (htarget : q ≠ target) :
    files.SameAt (files.rename source target) q := by
  unfold rename
  split
  · exact .refl files q
  · have hname : Function.update (Function.update files.names target (files.names source)) source
        none q = files.names q := by
      rw [Function.update_of_ne hsource, Function.update_of_ne htarget]
    exact ⟨hname, congrArg (Option.map files.contents) hname⟩

/-- A name of the renamed files had the file before, or has it from the old name. -/
theorem names_of_names_rename {source target p : Path} {node : Nat} (hne : source ≠ target)
    (h : (files.rename source target).names p = some node) :
    p ≠ source ∧ (p = target ∧ files.names source = some node ∨ files.names p = some node) := by
  unfold rename at h
  rw [if_neg hne] at h
  have h : Function.update (Function.update files.names target (files.names source)) source none p
      = some node := h
  by_cases hsource : p = source
  · rw [hsource, Function.update_self] at h
    contradiction
  · rw [Function.update_of_ne hsource] at h
    by_cases htarget : p = target
    · rw [htarget, Function.update_self] at h
      exact ⟨hsource, .inl ⟨htarget, h⟩⟩
    · rw [Function.update_of_ne htarget] at h
      exact ⟨hsource, .inr h⟩

theorem Apart.rename (h : files.Apart) (source target : Path) :
    (files.rename source target).Apart := by
  by_cases hne : source = target
  · have hsame : files.rename source target = files := if_pos hne
    rw [hsame]
    exact h
  · constructor
    · intro p q node hp hq
      obtain ⟨hpsource, hp⟩ := names_of_names_rename hne hp
      obtain ⟨hqsource, hq⟩ := names_of_names_rename hne hq
      rcases hp with ⟨hptarget, hp⟩ | hp <;> rcases hq with ⟨hqtarget, hq⟩ | hq
      · exact hptarget.trans hqtarget.symm
      · exact absurd (h.eq_of_names hq hp) hqsource
      · exact absurd (h.eq_of_names hp hq) hpsource
      · exact h.eq_of_names hp hq
    · intro p node hp
      have hmade : (files.rename source target).fresh = files.fresh := by
        unfold SharedFiles.rename
        split <;> rfl
      rw [hmade]
      obtain ⟨-, ⟨-, hp⟩ | hp⟩ := names_of_names_rename hne hp
      · exact h.made hp
      · exact h.made hp

theorem opened_rename (files : SharedFiles Party) (source target : Path) :
    (files.rename source target).opened = files.opened := by
  unfold rename
  split <;> rfl

/-! ## Open files -/

/-- Bytes with others put over them from an offset on; what is missing in front is zeros. -/
def overwritten (old : List UInt8) (offset : Nat) (bytes : List UInt8) : List UInt8 :=
  (old ++ List.replicate (offset - old.length) 0).take offset ++ bytes ++
    old.drop (offset + bytes.length)

end SharedFiles

/-- The bytes of an open file with more bytes written to it. -/
def OpenFile.put (file : OpenFile) (old bytes : List UInt8) : List UInt8 :=
  if file.appending then old ++ bytes else SharedFiles.overwritten old file.offset bytes

namespace SharedFiles

variable {Party : Type} [DecidableEq Party] {files other : SharedFiles Party}
  {party party' : Party} {path : Path} {handle : FileHandle}

/-- The files with a handle of a process standing for an open file, or for none. -/
def holding (files : SharedFiles Party) (party : Party) (handle : FileHandle)
    (file : Option OpenFile) : SharedFiles Party :=
  { files with
    opened := Function.update files.opened party
      (Function.update (files.opened party) handle file) }

/-- A file opened to be written from its start, with nothing in it. -/
def create (files : SharedFiles Party) (party : Party) (path : Path) (handle : FileHandle) :
    SharedFiles Party :=
  let (node, found) := files.find path
  { found with contents := Function.update found.contents node [] }.holding party handle
    (some ⟨node, false, 0⟩)

/-- A file opened to be written at its end. -/
def openToAppend (files : SharedFiles Party) (party : Party) (path : Path)
    (handle : FileHandle) : SharedFiles Party :=
  let (node, found) := files.find path
  found.holding party handle (some ⟨node, true, 0⟩)

/-- Bytes written to an open file of a process. -/
def write (files : SharedFiles Party) (party : Party) (handle : FileHandle)
    (bytes : List UInt8) : SharedFiles Party :=
  match files.opened party handle with
  | none => files
  | some file =>
    { files with
      contents := Function.update files.contents file.node
        (file.put (files.contents file.node) bytes) }.holding party handle
      (some { file with offset := file.offset + bytes.length })

/-- A handle given back. -/
def close (files : SharedFiles Party) (party : Party) (handle : FileHandle) :
    SharedFiles Party :=
  files.holding party handle none

theorem opened_holding (file : Option OpenFile) :
    (files.holding party handle file).opened party handle = file := by
  simp [holding]

theorem opened_holding_of_ne (h : party' ≠ party) (file : Option OpenFile) :
    (files.holding party handle file).opened party' = files.opened party' := by
  simp [holding, h]

/-! ### Creating and opening -/

theorem names_create (files : SharedFiles Party) (party : Party) (path : Path)
    (handle : FileHandle) : (files.create party path handle).names path =
      some (files.find path).1 := names_find files path

theorem opened_create (files : SharedFiles Party) (party : Party) (path : Path)
    (handle : FileHandle) : (files.create party path handle).opened party handle =
      some ⟨(files.find path).1, false, 0⟩ := opened_holding _

/-- **Creating** a file leaves nothing in it. -/
theorem file?_create (files : SharedFiles Party) (party : Party) (path : Path)
    (handle : FileHandle) : (files.create party path handle).file? path = some [] := by
  unfold file?
  rw [names_create]
  simp [create, holding]

theorem sameAt_create (h : files.Apart) {q : Path} (hq : q ≠ path) :
    files.SameAt (files.create party path handle) q := by
  have hfind := sameAt_find h hq
  refine ⟨hfind.names, ?_⟩
  rw [← hfind.file?]
  exact map_contents_update (h.find path) (names_find files path) hq []

theorem Apart.create (h : files.Apart) (party : Party) (path : Path) (handle : FileHandle) :
    (files.create party path handle).Apart :=
  ⟨(h.find path).eq_of_names, (h.find path).made⟩

theorem opened_create_of_ne (hparty : party' ≠ party) :
    (files.create party path handle).opened party' = files.opened party' := by
  rw [← opened_find files path]
  exact opened_holding_of_ne hparty _

theorem names_openToAppend (files : SharedFiles Party) (party : Party) (path : Path)
    (handle : FileHandle) : (files.openToAppend party path handle).names path =
      some (files.find path).1 := names_find files path

/-- A file that is there keeps its name. -/
theorem names_openToAppend_of_some {node : Nat} (h : files.names path = some node) (party : Party)
    (handle : FileHandle) : (files.openToAppend party path handle).names path = some node := by
  rw [names_openToAppend, find_of_some h]

theorem opened_openToAppend (files : SharedFiles Party) (party : Party) (path : Path)
    (handle : FileHandle) : (files.openToAppend party path handle).opened party handle =
      some ⟨(files.find path).1, true, 0⟩ := opened_holding _

/-- **Opening to append** keeps what is in the file. -/
theorem file?_openToAppend (files : SharedFiles Party) (party : Party) (path : Path)
    (handle : FileHandle) : (files.openToAppend party path handle).file? path =
      some ((files.file? path).getD []) := file?_find files path

theorem sameAt_openToAppend (h : files.Apart) {q : Path} (hq : q ≠ path) :
    files.SameAt (files.openToAppend party path handle) q :=
  ⟨(sameAt_find h hq).names, (sameAt_find h hq).file?⟩

theorem Apart.openToAppend (h : files.Apart) (party : Party) (path : Path)
    (handle : FileHandle) : (files.openToAppend party path handle).Apart :=
  ⟨(h.find path).eq_of_names, (h.find path).made⟩

theorem opened_openToAppend_of_ne (hparty : party' ≠ party) :
    (files.openToAppend party path handle).opened party' = files.opened party' := by
  rw [← opened_find files path]
  exact opened_holding_of_ne hparty _

/-! ### Writing -/

section write

variable {file : OpenFile}

theorem names_write (files : SharedFiles Party) (party : Party) (handle : FileHandle)
    (bytes : List UInt8) : (files.write party handle bytes).names = files.names := by
  unfold write
  cases files.opened party handle <;> rfl

theorem opened_write (hopened : files.opened party handle = some file) (bytes : List UInt8) :
    (files.write party handle bytes).opened party handle =
      some { file with offset := file.offset + bytes.length } := by
  unfold write
  rw [hopened]
  exact opened_holding _

/-- **Writing** is seen under the name of the file, if it has one. -/
theorem file?_write (hopened : files.opened party handle = some file)
    (hname : files.names path = some file.node) (bytes : List UInt8) :
    (files.write party handle bytes).file? path =
      (files.file? path).map fun old => file.put old bytes := by
  unfold file?
  rw [names_write, hname]
  unfold write
  rw [hopened]
  simp [holding]

theorem sameAt_write (h : files.Apart) (hopened : files.opened party handle = some file)
    (hname : files.names path = some file.node) {q : Path} (hq : q ≠ path) (bytes : List UInt8) :
    files.SameAt (files.write party handle bytes) q := by
  refine ⟨congrFun (names_write files party handle bytes) q, ?_⟩
  unfold write
  rw [hopened]
  exact map_contents_update h hname hq _

theorem Apart.write (h : files.Apart) (party : Party) (handle : FileHandle)
    (bytes : List UInt8) : (files.write party handle bytes).Apart := by
  unfold SharedFiles.write
  cases files.opened party handle with
  | none => exact h
  | some file => exact ⟨h.eq_of_names, h.made⟩

theorem opened_write_of_ne (hparty : party' ≠ party) (bytes : List UInt8) :
    (files.write party handle bytes).opened party' = files.opened party' := by
  unfold write
  cases files.opened party handle with
  | none => rfl
  | some file => exact opened_holding_of_ne hparty _

end write

/-! ### Writing behind what is there -/

theorem overwritten_length (old bytes : List UInt8) :
    overwritten old old.length bytes = old ++ bytes := by
  unfold overwritten
  rw [Nat.sub_self, List.replicate_zero, List.append_nil, List.take_length,
    List.drop_of_length_le (Nat.le_add_right _ _), List.append_nil]

theorem AtEnd.write {content : List UInt8} (h : files.AtEnd party handle path content)
    (bytes : List UInt8) :
    (files.write party handle bytes).AtEnd party handle path (content ++ bytes) := by
  obtain ⟨file, hopened, hname, hfile, hend⟩ := h
  refine ⟨_, opened_write hopened bytes, ?_, ?_, ?_⟩
  · rw [names_write]
    exact hname
  · rw [file?_write hopened hname, hfile, Option.map_some]
    unfold OpenFile.put
    rcases hend with happending | hoffset
    · rw [if_pos happending]
    · rw [hoffset, overwritten_length]
      split <;> rfl
  · rcases hend with happending | hoffset
    · exact .inl happending
    · right
      show file.offset + bytes.length = (content ++ bytes).length
      rw [hoffset, List.length_append]

theorem atEnd_create (files : SharedFiles Party) (party : Party) (path : Path)
    (handle : FileHandle) :
    (files.create party path handle).AtEnd party handle path [] :=
  ⟨_, opened_create .., names_create .., file?_create .., .inr rfl⟩

theorem atEnd_openToAppend (files : SharedFiles Party) (party : Party) (path : Path)
    (handle : FileHandle) :
    (files.openToAppend party path handle).AtEnd party handle path
      ((files.file? path).getD []) :=
  ⟨_, opened_openToAppend .., names_openToAppend .., file?_openToAppend .., .inl rfl⟩

/-! ### Closing -/

theorem sameAt_close (files : SharedFiles Party) (party : Party) (handle : FileHandle) (q : Path) :
    files.SameAt (files.close party handle) q := ⟨rfl, rfl⟩

theorem Apart.close (h : files.Apart) (party : Party) (handle : FileHandle) :
    (files.close party handle).Apart := ⟨h.eq_of_names, h.made⟩

theorem opened_close_of_ne (hparty : party' ≠ party) :
    (files.close party handle).opened party' = files.opened party' :=
  opened_holding_of_ne hparty none

end SharedFiles

end Interposition
