import SolidScene.Output

/-!
A file system around a working directory, on a host. Locations lead to entries, and the
entry of a file leads to its contents, which stay as they are when the name is removed,
so an open file goes on under any change of names. A file has at most one name; there
are no links, and no name is moved to another place. The root and every directory above
the working directory are there, and hold only what was made in them by a path through
them.

A path is cut at its slashes; slashes that follow each other count as one, a slash at
the start leads from the root, and a slash at the end says that a directory is meant. It
is followed name by name: what it passes through has to be a directory, `.` stays where
it is and `..` goes up. The path of the working directory is not known, so a path from
the root and one without a slash at the start never lead to the same place.
-/

namespace SolidScene

/-- Where a location starts; the levels are counted from the working directory up. -/
inductive Anchor where
  | above (levels : Nat)
  | root
  deriving DecidableEq

structure Location where
  anchor : Anchor
  names : List String
  deriving DecidableEq

namespace Location

def working : Location := ⟨.above 0, []⟩

def root : Location := ⟨.root, []⟩

def child (location : Location) (name : String) : Location :=
  ⟨location.anchor, location.names ++ [name]⟩

def parent (location : Location) : Location :=
  match location.names, location.anchor with
  | [], .above levels => ⟨.above (levels + 1), []⟩
  | [], .root => root
  | _ :: _, anchor => ⟨anchor, location.names.dropLast⟩

def covers (location other : Location) : Bool :=
  decide (location.anchor = other.anchor) && location.names.isPrefixOf other.names

end Location

structure Place where
  directory : Location
  name : String
  slashFollows : Bool

namespace Place

def location (place : Place) : Location :=
  place.directory.child place.name

def isDots (place : Place) : Bool :=
  place.name == "." || place.name == ".."

end Place

namespace Path

def names (path : String) : List String :=
  ((path.toList.splitOn '/').filter (· ≠ [])).map String.ofList

def isAbsolute (path : String) : Bool :=
  path.toList.head? == some '/'

def start (path : String) : Location :=
  if isAbsolute path then .root else .working

def endsInSlash (path : String) : Bool :=
  path.toList.getLast? == some '/'

end Path

inductive Entry where
  | directory
  | file (inode : Nat)
  deriving DecidableEq

/-- Entries by location, and contents by the number of the file. -/
structure FileSystem where
  entries : List (Location × Entry)
  contents : List Bytes
  stored : ∀ location inode, (location, .file inode) ∈ entries → inode < contents.length
  single : ∀ left right inode, (left, .file inode) ∈ entries → (right, .file inode) ∈ entries →
    left = right
  deriving DecidableEq

namespace FileSystem

def empty : FileSystem := ⟨[], [], nofun, nofun⟩

def entryAt? (files : FileSystem) (location : Location) : Option Entry :=
  if location.names = [] then some .directory
  else (files.entries.find? (·.1 = location)).map Prod.snd

theorem mem_of_entryAt? {files : FileSystem} {location : Location} {inode : Nat}
    (found : files.entryAt? location = some (.file inode)) :
    (location, .file inode) ∈ files.entries := by
  unfold entryAt? at found
  split at found
  · cases found
  · obtain ⟨⟨here, entry⟩, first, rfl⟩ := Option.map_eq_some_iff.1 found
    obtain rfl : here = location := by simpa using List.find?_some first
    exact List.mem_of_find?_eq_some first

theorem inode_lt {files : FileSystem} {location : Location} {inode : Nat}
    (found : files.entryAt? location = some (.file inode)) : inode < files.contents.length :=
  files.stored location inode (mem_of_entryAt? found)

def read? (files : FileSystem) (location : Location) : Option Bytes :=
  match files.entryAt? location with
  | some (.file inode) => files.contents[inode]?
  | _ => none

def contentOf? (files : FileSystem) : Entry → Option Bytes
  | .directory => none
  | .file inode => files.contents[inode]?

def follow (files : FileSystem) (here : Location) : List String → Except OutputError Location
  | [] => .ok here
  | name :: rest =>
    if name = "." then follow files here rest
    else if name = ".." then follow files here.parent rest
    else
      match files.entryAt? (here.child name) with
      | none => .error .notFound
      | some (.file _) => .error .notDirectory
      | some .directory => follow files (here.child name) rest

/-- Finds the directory of a path's last name. A path of slashes alone means the
root, and the empty path means nothing. -/
def find (files : FileSystem) (path : String) : Except OutputError Place :=
  match (Path.names path).getLast? with
  | none => if Path.isAbsolute path then .ok ⟨.root, ".", true⟩ else .error .notFound
  | some name =>
    match files.follow (Path.start path) (Path.names path).dropLast with
    | .error error => .error error
    | .ok directory => .ok ⟨directory, name, Path.endsInSlash path⟩

def addDirectory (files : FileSystem) (location : Location) : FileSystem where
  entries := (location, .directory) :: files.entries
  contents := files.contents
  stored here inode member := files.stored here inode ((List.mem_cons.1 member).resolve_left nofun)
  single left right inode first second :=
    files.single left right inode ((List.mem_cons.1 first).resolve_left nofun)
      ((List.mem_cons.1 second).resolve_left nofun)

def addFile (files : FileSystem) (location : Location) : FileSystem where
  entries := (location, .file files.contents.length) :: files.entries
  contents := files.contents ++ [[]]
  stored here inode member := by
    rw [List.length_append, List.length_singleton]
    rcases List.mem_cons.1 member with new | old
    · cases new
      exact Nat.lt_succ_self _
    · exact Nat.lt_succ_of_lt (files.stored here inode old)
  single left right inode first second := by
    have fresh : ∀ here, (here, .file files.contents.length) ∉ files.entries :=
      fun here member => Nat.lt_irrefl _ (files.stored here _ member)
    rcases List.mem_cons.1 first with new | old <;> rcases List.mem_cons.1 second with other | older
    · cases new
      cases other
      rfl
    · cases new
      exact absurd older (fresh right)
    · cases other
      exact absurd old (fresh left)
    · exact files.single left right inode old older

def keepNames (files : FileSystem) (kept : Location → Bool) : FileSystem where
  entries := files.entries.filter fun entry => kept entry.1
  contents := files.contents
  stored here inode member := files.stored here inode (List.mem_filter.1 member).1
  single left right inode first second :=
    files.single left right inode (List.mem_filter.1 first).1 (List.mem_filter.1 second).1

def rewrite (files : FileSystem) (inode : Nat) (change : Bytes → Bytes) : FileSystem where
  entries := files.entries
  contents := files.contents.modify inode change
  stored here other member := by
    rw [List.length_modify]
    exact files.stored here other member
  single := files.single

/-- Bytes from the start up to an offset; a gap before the offset is filled with zeros. -/
def front (old : Bytes) (offset : Nat) : Bytes :=
  (old ++ List.replicate (offset - old.length) 0).take offset

def overwrite (old : Bytes) (offset : Nat) (bytes : Bytes) : Bytes :=
  front old offset ++ bytes ++ old.drop (offset + bytes.length)

end FileSystem

/-- A file open for writing, with the offset of the next byte and the number of
attempts made to write to it. -/
structure OpenFile where
  files : FileSystem
  inode : Nat
  offset : Nat
  attempts : Nat
  inUse : inode < files.contents.length
  deriving DecidableEq

def OpenFile.append (file : OpenFile) (bytes : Bytes) : OpenFile where
  files := file.files.rewrite file.inode (FileSystem.overwrite · file.offset bytes)
  inode := file.inode
  offset := file.offset + bytes.length
  attempts := file.attempts
  inUse := by
    rw [FileSystem.rewrite, List.length_modify]
    exact file.inUse

namespace FileSystem

/-- Opens the file at a path for writing, as far as the names allow: emptied if it was
there and new if it was not. A path that can only mean a directory opens no file. -/
def create (files : FileSystem) (path : String) : Except OutputError OpenFile :=
  match files.find path with
  | .error error => .error error
  | .ok place =>
    if place.isDots || place.slashFollows then .error .isDirectory
    else
      match found : files.entryAt? place.location with
      | some .directory => .error .isDirectory
      | some (.file inode) =>
        .ok {
          files := files.rewrite inode fun _ => []
          inode := inode
          offset := 0
          attempts := 0
          inUse := by
            rw [rewrite, List.length_modify]
            exact inode_lt found }
      | none =>
        .ok {
          files := files.addFile place.location
          inode := files.contents.length
          offset := 0
          attempts := 0
          inUse := by
            rw [addFile, List.length_append]
            exact Nat.lt_succ_self _ }

def remove (files : FileSystem) (path : String) : Except OutputError FileSystem :=
  match files.find path with
  | .error error => .error error
  | .ok place =>
    if place.isDots then .error .isDirectory
    else
      match files.entryAt? place.location with
      | none => .error .notFound
      | some .directory => .error .isDirectory
      | some (.file _) =>
        if place.slashFollows then .error .notDirectory
        else .ok (files.keepNames fun location => location ≠ place.location)

end FileSystem

/-!
What the host of a file system decides. How much of an offer is stored is up to its
disk; it goes into the contents of the open file at the offset reached so far, whatever
names lead to that file by then. And the host may refuse to create or to remove a file
that its names allow to, for want of permission, of storage or of a name it takes.
-/

/-- How much of an offer is stored in an open file, or why nothing is. As the file
counts the attempts, a disk need not answer the same offer alike twice. -/
abbrev Disk := OpenFile → Bytes → Except OutputError Nat

def Disk.roomy : Disk := fun _ bytes => .ok bytes.length

def Disk.sink (disk : Disk) : Sink OpenFile where
  write bytes file :=
    let tried := { file with attempts := file.attempts + 1 }
    match disk file bytes with
    | .error error => (.error error, tried)
    | .ok count => (.ok (bytes.take count).length, tried.append (bytes.take count))
  flush file := (.ok (), file)

inductive Access where
  | create
  | remove
  deriving DecidableEq

/-- A host: its disk, and with which error it refuses to create or remove the file at a
path. -/
structure Host where
  disk : Disk
  refusal? : Access → String → FileSystem → Option OutputError

namespace Host

/-- A host with room for everything, which refuses nothing. -/
def roomy : Host := ⟨.roomy, fun _ _ _ => none⟩

def create (host : Host) (path : String) (files : FileSystem) : Except OutputError OpenFile :=
  match host.refusal? .create path files with
  | some error => .error error
  | none => files.create path

def remove (host : Host) (path : String) (files : FileSystem) : Except OutputError FileSystem :=
  match host.refusal? .remove path files with
  | some error => .error error
  | none => files.remove path

end Host

/-!
Changes that a script makes to the file system on its own account, beside what it
writes to its output.
-/

namespace FileSystem

def makeDirectories (files : FileSystem) (here : Location) : List String → FileSystem
  | [] => files
  | name :: rest =>
    if name = "." then makeDirectories files here rest
    else if name = ".." then makeDirectories files here.parent rest
    else
      match files.entryAt? (here.child name) with
      | none => makeDirectories (files.addDirectory (here.child name)) (here.child name) rest
      | some .directory => makeDirectories files (here.child name) rest
      | some (.file _) => files

def clear (files : FileSystem) (location : Location) : FileSystem :=
  files.keepNames fun other => !location.covers other

end FileSystem

/-- What a script does to the file system on its own account. An action that
cannot be done leaves the files as they are. -/
inductive FileAction where
  | remove (path : String)
  | write (path content : String)
  | makeDirectory (path : String)

namespace FileAction

def perform (action : FileAction) (files : FileSystem) : FileSystem :=
  match action with
  | .remove path =>
    match files.find path with
    | .error _ => files
    | .ok place => files.clear place.location
  | .write path content =>
    match files.create path with
    | .error _ => files
    | .ok file => (file.append (bytesOf content)).files
  | .makeDirectory path => files.makeDirectories (Path.start path) (Path.names path)

end FileAction

namespace FileSystem

theorem makeDirectories_contents (files : FileSystem) (here : Location) (names : List String) :
    (files.makeDirectories here names).contents = files.contents := by
  fun_induction makeDirectories files here names with
  | case1 | case6 => rfl
  | case2 | case3 | case5 => assumption
  | case4 files here name rest _ _ missing ih => exact ih

theorem create_contents_length {files : FileSystem} {path : String} {file : OpenFile}
    (created : files.create path = .ok file) :
    files.contents.length ≤ file.files.contents.length := by
  unfold create at created
  split at created
  · cases created
  · split at created
    · cases created
    · split at created <;> cases created
      · exact Nat.le_of_eq (List.length_modify _ _ _).symm
      · exact (List.prefix_append _ _).length_le

end FileSystem

/-- No action takes the number of a file out of use. -/
theorem FileAction.contents_length_le (action : FileAction) (files : FileSystem) :
    files.contents.length ≤ (action.perform files).contents.length := by
  cases action with
  | remove path =>
    rw [perform]
    split <;> exact Nat.le_refl _
  | write path content =>
    rw [perform]
    split
    · exact Nat.le_refl _
    · next file created =>
      refine Nat.le_trans (FileSystem.create_contents_length created) (Nat.le_of_eq ?_)
      exact (List.length_modify _ _ _).symm
  | makeDirectory path => exact Nat.le_of_eq (congrArg _ (files.makeDirectories_contents _ _).symm)

def OpenFile.act (action : FileAction) (file : OpenFile) : OpenFile :=
  { file with
    files := action.perform file.files
    inUse := Nat.lt_of_lt_of_le file.inUse (action.contents_length_le file.files) }

end SolidScene
