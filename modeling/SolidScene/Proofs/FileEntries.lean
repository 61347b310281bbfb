import SolidScene.FileSystem

/-!
What operations on a file system do to its entries. Where a path leads is read off
the path alone; the file system only decides whether one gets there. Opening,
removing and writing concern the one location of their path, and what is seen at
every other location stays. Actions of scripts are free in what they change, but a
file that has lost its name never gets one again.
-/

namespace SolidScene

theorem Location.child_names (location : Location) (name : String) :
    (location.child name).names ≠ [] :=
  List.append_ne_nil_of_right_ne_nil _ (List.cons_ne_nil _ _)

namespace Path

/-- Where names lead from a location, whatever is there. -/
def walk (here : Location) : List String → Location
  | [] => here
  | name :: rest =>
    if name = "." then walk here rest
    else if name = ".." then walk here.parent rest
    else walk (here.child name) rest

def place? (path : String) : Option Place :=
  match (names path).getLast? with
  | none => if isAbsolute path then some ⟨.root, ".", true⟩ else none
  | some name => some ⟨walk (start path) (names path).dropLast, name, endsInSlash path⟩

def location? (path : String) : Option Location :=
  (place? path).map Place.location

end Path

namespace FileSystem

theorem follow_walk {files : FileSystem} {here directory : Location} {names : List String}
    (followed : files.follow here names = .ok directory) : Path.walk here names = directory := by
  fun_induction follow files here names with
  | case1 here => exact Except.ok.inj followed
  | case2 here rest ih => rw [Path.walk, if_pos rfl, ih followed]
  | case3 here rest noDot ih => rw [Path.walk, if_neg noDot, if_pos rfl, ih followed]
  | case4 | case5 => cases followed
  | case6 here name rest noDot noDots _ ih =>
    rw [Path.walk, if_neg noDot, if_neg noDots, ih followed]

/-- A path leads to the place that it means or nowhere. -/
theorem find_place {files : FileSystem} {path : String} {place : Place}
    (found : files.find path = .ok place) : Path.place? path = some place := by
  unfold find at found
  unfold Path.place?
  generalize (Path.names path).getLast? = last at found ⊢
  cases last with
  | none =>
    dsimp only at found ⊢
    split at found
    case isTrue absolute =>
      cases found
      exact if_pos absolute
    case isFalse => cases found
  | some name =>
    dsimp only at found ⊢
    split at found
    case h_1 => cases found
    case h_2 directory followed =>
      cases found
      rw [follow_walk followed]

theorem find_location {files : FileSystem} {path : String} {place : Place}
    (found : files.find path = .ok place) : Path.location? path = some place.location :=
  congrArg (Option.map Place.location) (find_place found)

theorem ne_of_find {files : FileSystem} {path : String} {place : Place} {location : Location}
    (found : files.find path = .ok place) (apart : Path.location? path ≠ some location) :
    location ≠ place.location := by
  rintro rfl
  exact apart (find_location found)

theorem follow_mono {files more : FileSystem}
    (kept : ∀ location, files.entryAt? location = some .directory →
      more.entryAt? location = some .directory)
    {here directory : Location} {names : List String}
    (followed : files.follow here names = .ok directory) :
    more.follow here names = .ok directory := by
  fun_induction follow files here names with
  | case1 here => exact followed
  | case2 here rest ih => rw [follow, if_pos rfl, ih followed]
  | case3 here rest noDot ih => rw [follow, if_neg noDot, if_pos rfl, ih followed]
  | case4 | case5 => cases followed
  | case6 here name rest noDot noDots isDirectory ih =>
    rw [follow, if_neg noDot, if_neg noDots, kept _ isDirectory]
    exact ih followed

theorem find_mono {files more : FileSystem}
    (kept : ∀ location, files.entryAt? location = some .directory →
      more.entryAt? location = some .directory)
    {path : String} {place : Place} (found : files.find path = .ok place) :
    more.find path = .ok place := by
  unfold find at found ⊢
  split at found
  case h_1 => exact found
  case h_2 name _ =>
    split at found
    case h_1 => cases found
    case h_2 directory followed =>
      rw [follow_mono kept followed]
      exact found

theorem find_congr {files other : FileSystem}
    (same : ∀ location, files.entryAt? location = other.entryAt? location) (path : String) :
    files.find path = other.find path := by
  have followed : ∀ names here, files.follow here names = other.follow here names := by
    intro names
    induction names with
    | nil => exact fun here => rfl
    | cons name rest ih =>
      intro here
      simp only [follow, same, ih]
  simp only [find, followed]

theorem entryAt?_rewrite (files : FileSystem) (inode : Nat) (change : Bytes → Bytes)
    (location : Location) :
    (files.rewrite inode change).entryAt? location = files.entryAt? location :=
  rfl

theorem find_rewrite (files : FileSystem) (inode : Nat) (change : Bytes → Bytes)
    (path : String) : (files.rewrite inode change).find path = files.find path :=
  find_congr (files.entryAt?_rewrite inode change) path

/-! What is at a location after each change. -/

theorem entryAt?_addDirectory (files : FileSystem) {location : Location}
    (named : location.names ≠ []) (other : Location) :
    (files.addDirectory location).entryAt? other =
      if other = location then some .directory else files.entryAt? other := by
  unfold entryAt? addDirectory
  by_cases here : other = location
  · simp [here, named]
  · simp [here, Ne.symm here]

theorem entryAt?_addFile (files : FileSystem) {location : Location}
    (named : location.names ≠ []) (other : Location) :
    (files.addFile location).entryAt? other =
      if other = location then some (.file files.contents.length) else files.entryAt? other := by
  unfold entryAt? addFile
  by_cases here : other = location
  · simp [here, named]
  · simp [here, Ne.symm here]

theorem entryAt?_keepNames (files : FileSystem) (kept : Location → Bool) (other : Location) :
    (files.keepNames kept).entryAt? other =
      if other.names = [] ∨ kept other = true then files.entryAt? other else none := by
  unfold entryAt? keepNames
  by_cases anchor : other.names = []
  · simp [anchor]
  · rw [if_neg anchor, if_neg anchor]
    cases keeps : kept other with
    | true =>
      rw [if_pos (.inr rfl), List.find?_filter]
      congr 2
      funext entry
      by_cases here : entry.1 = other
      · simp [here, keeps]
      · simp [here]
    | false =>
      have gone : (files.entries.filter fun entry => kept entry.1).find? (·.1 = other) = none := by
        refine List.find?_eq_none.2 fun entry member here => ?_
        have stays := (List.mem_filter.1 member).2
        rw [of_decide_eq_true here, keeps] at stays
        cases stays
      rw [gone, if_neg (by simp [anchor])]
      rfl

/-! What is seen at a location: its entry, with the contents if it is a file. -/

def seen (files : FileSystem) (location : Location) : Option (Entry × Option Bytes) :=
  (files.entryAt? location).map fun entry => (entry, files.contentOf? entry)

/-- What a path leads to, if it leads anywhere. -/
def view (files : FileSystem) (path : String) : Option (Entry × Option Bytes) :=
  match files.find path with
  | .error _ => none
  | .ok place => files.seen place.location

theorem view_of_find {files : FileSystem} {path : String} {place : Place}
    (found : files.find path = .ok place) : files.view path = files.seen place.location := by
  rw [view, found]

theorem seen_file {files : FileSystem} {location : Location} {inode : Nat} {bytes : Bytes} :
    files.seen location = some (.file inode, some bytes) ↔
      files.entryAt? location = some (.file inode) ∧ files.contents[inode]? = some bytes := by
  unfold seen
  constructor
  · intro visible
    obtain ⟨entry, here, same⟩ := Option.map_eq_some_iff.1 visible
    obtain ⟨rfl, content⟩ := Prod.mk.inj same
    exact ⟨here, content⟩
  · rintro ⟨here, content⟩
    rw [here, Option.map_some, contentOf?, content]

theorem view_file {files : FileSystem} {path : String} {inode : Nat} {bytes : Bytes} :
    files.view path = some (.file inode, some bytes) ↔
      ∃ place, files.find path = .ok place ∧
        files.entryAt? place.location = some (.file inode) ∧
        files.contents[inode]? = some bytes := by
  constructor
  · intro visible
    rw [view] at visible
    split at visible
    case h_1 => cases visible
    case h_2 place found => exact ⟨place, found, seen_file.1 visible⟩
  · rintro ⟨place, found, there⟩
    rw [view_of_find found, seen_file]
    exact there

theorem seen_eq_none {files : FileSystem} {location : Location} :
    files.seen location = none ↔ files.entryAt? location = none :=
  Option.map_eq_none_iff

theorem seen_congr {files other : FileSystem} {location : Location}
    (entry : other.entryAt? location = files.entryAt? location)
    (content : ∀ inode, files.entryAt? location = some (.file inode) →
      other.contents[inode]? = files.contents[inode]?) :
    other.seen location = files.seen location := by
  unfold seen
  rw [entry]
  cases here : files.entryAt? location with
  | none => rfl
  | some entry =>
    cases entry with
    | directory => rfl
    | file inode => exact congrArg (fun bytes => some (_, bytes)) (content inode here)

theorem entryAt?_single {files : FileSystem} {left right : Location} {inode : Nat}
    (first : files.entryAt? left = some (.file inode))
    (second : files.entryAt? right = some (.file inode)) : left = right :=
  files.single left right inode ( mem_of_entryAt? first) ( mem_of_entryAt? second)

theorem seen_rewrite (files : FileSystem) {inode : Nat} (change : Bytes → Bytes)
    {location : Location} (elsewhere : files.entryAt? location ≠ some (.file inode)) :
    (files.rewrite inode change).seen location = files.seen location := by
  refine seen_congr rfl fun other here => ?_
  rw [rewrite, List.getElem?_modify_ne]
  rintro rfl
  exact elsewhere here

theorem create_cases {files : FileSystem} {path : String} {file : OpenFile}
    (created : files.create path = .ok file) :
    ∃ place, files.find path = .ok place ∧ (place.isDots = false ∧ place.slashFollows = false) ∧
      file.offset = 0 ∧
      ((files.entryAt? place.location = some (.file file.inode) ∧
          file.files = files.rewrite file.inode fun _ => []) ∨
        (files.entryAt? place.location = none ∧ file.inode = files.contents.length ∧
          file.files = files.addFile place.location)) := by
  unfold create at created
  split at created
  · cases created
  next place found =>
  split at created
  · cases created
  next plain =>
  have plain := Bool.or_eq_false_iff.1 (Bool.eq_false_iff.2 plain)
  split at created
  · cases created
  · next inode here =>
    cases created
    exact ⟨place, found, plain, rfl, .inl ⟨here, rfl⟩⟩
  · next missing =>
    cases created
    exact ⟨place, found, plain, rfl, .inr ⟨missing, rfl, rfl⟩⟩

/-- What opening the file at a path does: the place has an empty file now, the one
that is open, and what is seen elsewhere is as before. -/
structure Opened (files : FileSystem) (path : String) (file : OpenFile) (place : Place) :
    Prop where
  found : files.find path = .ok place
  stillFound : file.files.find path = .ok place
  plain : place.isDots = false ∧ place.slashFollows = false
  atStart : file.offset = 0
  named : file.files.entryAt? place.location = some (.file file.inode)
  blank : file.files.contents[file.inode]? = some []
  elsewhere : ∀ location, location ≠ place.location →
    file.files.seen location = files.seen location

theorem create_opened {files : FileSystem} {path : String} {file : OpenFile}
    (created : files.create path = .ok file) : ∃ place, Opened files path file place := by
  obtain ⟨place, found, plain, atStart, emptied | added⟩ := create_cases created
  · obtain ⟨here, same⟩ := emptied
    refine ⟨place, found, ?_, plain, atStart, ?_, ?_, fun location apart => ?_⟩ <;> rw [same]
    · exact (files.find_rewrite _ _ path).trans found
    · exact here
    · have inUse := inode_lt here
      simp [rewrite, inUse]
    · exact seen_rewrite files _ fun there => apart ( entryAt?_single there here)
  · obtain ⟨missing, inode, same⟩ := added
    have entries := files.entryAt?_addFile (place.directory.child_names place.name)
    refine ⟨place, found, ?_, plain, atStart, ?_, ?_, fun location apart => ?_⟩ <;> rw [same]
    · refine find_mono (fun location isDirectory => ?_) found
      refine (entries location).trans ((if_neg ?_).trans isDirectory)
      rintro rfl
      exact nomatch missing.symm.trans isDirectory
    · rw [inode]
      exact (entries _).trans (if_pos rfl)
    · rw [inode]
      exact List.getElem?_concat_length
    · refine seen_congr ((entries location).trans (if_neg apart)) fun inode there => ?_
      exact List.getElem?_append_left (inode_lt there)

theorem remove_removed {files next : FileSystem} {path : String}
    (removed : files.remove path = .ok next) :
    ∃ place, files.find path = .ok place ∧ next.entryAt? place.location = none ∧
      next.view path = none ∧
      ∀ location, location ≠ place.location → next.seen location = files.seen location := by
  unfold remove at removed
  split at removed
  · cases removed
  next place found =>
  have named : place.location.names ≠ [] := place.directory.child_names place.name
  have kept := files.entryAt?_keepNames fun location => location ≠ place.location
  have gone : (files.keepNames fun location => location ≠ place.location).entryAt?
      place.location = none := by
    rw [kept, if_neg (by simp [named])]
  split at removed
  · cases removed
  split at removed <;> try cases removed
  split at removed <;> cases removed
  refine ⟨place, found, gone, ?_, fun location apart => seen_congr ?_ fun _ _ => rfl⟩
  · unfold view
    split
    · rfl
    -- where the path still leads, it leads to the place that it means
    · next other again =>
      obtain rfl := Option.some.inj ((find_place found).symm.trans (find_place again))
      exact seen_eq_none.2 gone
  · rw [kept, if_pos (.inr (by simpa using apart))]

theorem remove_ok {files : FileSystem} {path : String} {place : Place} {inode : Nat}
    (found : files.find path = .ok place)
    (plain : place.isDots = false ∧ place.slashFollows = false)
    (here : files.entryAt? place.location = some (.file inode)) :
    ∃ next, files.remove path = .ok next := by
  refine ⟨files.keepNames fun location => location ≠ place.location, ?_⟩
  simp only [remove, found, here, plain, Bool.false_eq_true, ↓reduceIte]

/-! A file that is in use gets no new name from an action. -/

theorem addDirectory_old {files : FileSystem} {location here : Location} {inode : Nat}
    (named : location.names ≠ [])
    (found : (files.addDirectory location).entryAt? here = some (.file inode)) :
    files.entryAt? here = some (.file inode) := by
  rw [files.entryAt?_addDirectory named] at found
  split at found
  · cases found
  · exact found

theorem makeDirectories_old {files : FileSystem} {start here : Location} {names : List String}
    {inode : Nat}
    (found : (files.makeDirectories start names).entryAt? here = some (.file inode)) :
    files.entryAt? here = some (.file inode) := by
  fun_induction makeDirectories files start names with
  | case1 | case6 => exact found
  | case2 _ _ _ ih | case3 _ _ _ _ ih | case5 _ _ _ _ _ _ _ ih => exact ih found
  | case4 files start name rest _ _ _ ih =>
    exact addDirectory_old (start.child_names name) (ih found)

theorem create_old {files : FileSystem} {path : String} {file : OpenFile} {here : Location}
    {inode : Nat} (created : files.create path = .ok file) (inUse : inode < files.contents.length)
    (found : file.files.entryAt? here = some (.file inode)) :
    files.entryAt? here = some (.file inode) := by
  obtain ⟨place, _, _, _, ⟨_, same⟩ | ⟨_, _, same⟩⟩ := create_cases created
  · rw [same] at found
    exact found
  · have entries := files.entryAt?_addFile (place.directory.child_names place.name) here
    rw [same] at found
    split at entries
    · cases entries.symm.trans found
      exact absurd inUse (Nat.lt_irrefl _)
    · exact entries.symm.trans found

end FileSystem

theorem FileAction.perform_old (action : FileAction) {files : FileSystem} {here : Location}
    {inode : Nat} (inUse : inode < files.contents.length)
    (found : (action.perform files).entryAt? here = some (.file inode)) :
    files.entryAt? here = some (.file inode) := by
  cases action with
  | remove path =>
    rw [perform] at found
    split at found
    · exact found
    · rw [FileSystem.clear, FileSystem.entryAt?_keepNames] at found
      split at found
      · exact found
      · cases found
  | write path content =>
    rw [perform] at found
    split at found
    · exact found
    · next file created => exact FileSystem.create_old created inUse found
  | makeDirectory path => exact FileSystem.makeDirectories_old found

end SolidScene
