import Mathlib.Data.List.Induction
import Schemata.Schema.ModulePath

/-!
# Where the specifiers of modules lead

A path is the list of its segments, so the path of a module differs from that of its file in the
last segment only.  The specifier by which one module imports another leads from the folder of the
first to the second.  It is marked as a relative one by a dot or two in front of a slash, with one
exception: two dots at the start of a name are taken for a step up, and then the mark is missing.

## Main definitions

* `ModulePath.IsPlain` : every segment of a path is a name.
* `ModulePath.resolve` : where a specifier leads, as seen from a module.
* `ModulePath.isMarked` : a specifier that cannot be taken for the name of a package.
* `ModulePath.Collide` : two files in one folder whose names differ at most in the extension.

## Main results

* `ModulePath.split_joinSegments`, `ModulePath.joinSegments_split` : a path is the list of its
  segments.
* `ModulePath.ofFile_eq_iff` : when two files have the same module path.
* `ModulePath.resolve_specifier` : where a specifier leads.
* `ModulePath.specifier_leads` : specifiers lead to the module, and which of them are marked.
-/

namespace Schemata

/-! ### Segments -/

namespace Segments

variable {sep : Char}

theorem split_ne_nil (sep : Char) (text : List Char) : split sep text ≠ [] := by
  induction text with
  | nil => simp [split]
  | cons c rest ih =>
    unfold split
    split
    · simp
    · split <;> simp

theorem split_cons_sep (rest : List Char) : split sep (sep :: rest) = [] :: split sep rest :=
  if_pos rfl

theorem split_cons_of_ne {c : Char} (other : c ≠ sep) {rest first : List Char}
    {others : List (List Char)} (h : split sep rest = first :: others) :
    split sep (c :: rest) = (c :: first) :: others := by
  rw [split, if_neg other, h]

/-- No segment holds a separator. -/
theorem sep_notMem_of_mem_split {text segment : List Char} (member : segment ∈ split sep text) :
    sep ∉ segment := by
  induction text generalizing segment with
  | nil =>
    rw [List.mem_singleton.mp member]
    exact List.not_mem_nil
  | cons c rest ih =>
    obtain ⟨first, others, parts⟩ := List.exists_cons_of_ne_nil (split_ne_nil sep rest)
    by_cases isSep : c = sep
    · rw [isSep, split_cons_sep] at member
      rcases List.mem_cons.mp member with rfl | member
      · exact List.not_mem_nil
      · exact ih member
    · rw [split_cons_of_ne isSep parts] at member
      rcases List.mem_cons.mp member with rfl | member
      · rw [List.mem_cons, not_or]
        exact ⟨Ne.symm isSep, ih (parts ▸ List.mem_cons_self)⟩
      · exact ih (parts ▸ List.mem_cons_of_mem _ member)

/-- A segment in front of a separator is cut off. -/
theorem split_append_cons {segment : List Char} (whole : sep ∉ segment) (rest : List Char) :
    split sep (segment ++ sep :: rest) = segment :: split sep rest := by
  induction segment with
  | nil => exact split_cons_sep rest
  | cons c segment ih =>
    obtain ⟨other, whole⟩ := not_or.mp (List.mem_cons.not.mp whole)
    exact split_cons_of_ne (Ne.symm other) (ih whole)

theorem split_of_notMem {segment : List Char} (whole : sep ∉ segment) :
    split sep segment = [segment] := by
  induction segment with
  | nil => rfl
  | cons c segment ih =>
    obtain ⟨other, whole⟩ := not_or.mp (List.mem_cons.not.mp whole)
    exact split_cons_of_ne (Ne.symm other) (ih whole)

end Segments

namespace ModulePath

open Segments

theorem joinSegments_cons (segment : List Char) {rest : List (List Char)} (some : rest ≠ []) :
    joinSegments (segment :: rest) = segment ++ '/' :: joinSegments rest := by
  obtain ⟨next, rest, rfl⟩ := List.exists_cons_of_ne_nil some
  rfl

/-- Segments are read back from the path that they make. -/
theorem split_joinSegments {segments : List (List Char)} (some : segments ≠ [])
    (whole : ∀ segment ∈ segments, '/' ∉ segment) :
    split '/' (joinSegments segments) = segments := by
  induction segments with
  | nil => exact absurd rfl some
  | cons segment rest ih =>
    obtain ⟨first, whole⟩ := List.forall_mem_cons.mp whole
    by_cases last : rest = []
    · rw [last]
      exact split_of_notMem first
    · rw [joinSegments_cons segment last, split_append_cons first, ih last whole]

/-- A path is made of its segments. -/
theorem joinSegments_split (path : List Char) : joinSegments (split '/' path) = path := by
  induction path with
  | nil => rfl
  | cons c rest ih =>
    obtain ⟨first, others, parts⟩ := List.exists_cons_of_ne_nil (split_ne_nil '/' rest)
    by_cases isSep : c = '/'
    · rw [isSep, split_cons_sep, joinSegments_cons _ (split_ne_nil _ _), ih]
      rfl
    · rw [parts] at ih
      rw [split_cons_of_ne isSep parts, ← ih]
      cases others <;> rfl

/-- The last segment follows a slash after every other one. -/
theorem joinSegments_concat (folders : List (List Char)) (name : List Char) :
    joinSegments (folders ++ [name]) = folders.flatMap (· ++ ['/']) ++ name := by
  induction folders with
  | nil => rfl
  | cons folder folders ih =>
    rw [List.cons_append, joinSegments_cons _ (List.concat_ne_nil _ _), ih]
    simp

/-! ### Paths of modules -/

/-- The folder segments of a path: all but the last segment. -/
def around (path : List Char) : List (List Char) :=
  (split '/' path).dropLast

theorem split_eq (path : List Char) : split '/' path = around path ++ [fileName path] := by
  have some := split_ne_nil '/' path
  rw [around, fileName, List.getLastD_eq_getLast?, List.getLast?_eq_some_getLast some,
    Option.getD_some, List.dropLast_concat_getLast]

theorem slash_notMem_around {path segment : List Char} (member : segment ∈ around path) :
    '/' ∉ segment :=
  sep_notMem_of_mem_split ((List.dropLast_sublist _).subset member)

theorem slash_notMem_fileName (path : List Char) : '/' ∉ fileName path := by
  have member : fileName path ∈ split '/' path := by
    rw [split_eq]
    exact List.mem_append_right _ List.mem_cons_self
  exact sep_notMem_of_mem_split member

/-- The extension that a stem leaves out starts with a dot, and the stem is not empty then. -/
theorem stem_eq_or (name : List Char) :
    stem name = name ∨ stem name ≠ [] ∧ ∃ ending, name = stem name ++ '.' :: ending := by
  unfold stem
  split
  · rename_i c rest found
    refine Or.inr ⟨by simp, ?_⟩
    have prefixed : (name.reverse.dropWhile (· ≠ '.')).reverse <+: name :=
      List.reverse_suffix.mp (by simpa using List.dropWhile_suffix _)
    rw [found, List.reverse_cons] at prefixed
    obtain ⟨ending, parts⟩ := prefixed
    exact ⟨ending, by simpa using parts.symm⟩
  · exact Or.inl rfl

theorem slash_notMem_stem (path : List Char) : '/' ∉ stem (fileName path) := by
  have whole := slash_notMem_fileName path
  rcases stem_eq_or (fileName path) with same | ⟨-, ending, parts⟩
  · rwa [same]
  · rw [parts] at whole
    exact fun member => whole (List.mem_append_left _ member)

/-- Without its extension a path ends in the stem of its name. -/
theorem stripExtension_eq (path : List Char) :
    stripExtension path = joinSegments (around path ++ [stem (fileName path)]) := by
  have parts := joinSegments_split path
  rw [split_eq, joinSegments_concat] at parts
  have front : folderPrefix path = (around path).flatMap (· ++ ['/']) := by
    have length := congrArg List.length parts
    rw [List.length_append] at length
    rw [folderPrefix, ← length, Nat.add_sub_cancel]
    exact (congrArg (List.take _) parts).symm.trans List.take_left
  rw [stripExtension, front, joinSegments_concat]

/-- The path of a module is that of its file with another last segment. -/
theorem toList_ofFile (file : String) :
    (ofFile file).toList = joinSegments
      (around file.toList ++ [stem (fileName file.toList) ++ ".schema.ts".toList]) := by
  rw [ofFile, String.toList_append, String.toList_ofList, stripExtension_eq, joinSegments_concat,
    joinSegments_concat, List.append_assoc]

/-- Two files of one folder whose names differ at most in the extension. -/
def Collide (file other : String) : Prop :=
  around file.toList = around other.toList ∧
    stem (fileName file.toList) = stem (fileName other.toList)

instance (file other : String) : Decidable (Collide file other) :=
  inferInstanceAs (Decidable (_ ∧ _))

theorem split_concat_ofFile (path : List Char) {ending : List Char} (whole : '/' ∉ ending) :
    split '/' (joinSegments (around path ++ [stem (fileName path) ++ ending]))
      = around path ++ [stem (fileName path) ++ ending] := by
  refine split_joinSegments (List.concat_ne_nil _ _) fun segment member => ?_
  rcases List.mem_append.mp member with inside | last
  · exact slash_notMem_around inside
  · rw [List.mem_singleton.mp last, List.mem_append, not_or]
    exact ⟨slash_notMem_stem path, whole⟩

/-- The segments of the path of a module. -/
theorem split_ofFile (file : String) :
    split '/' (ofFile file).toList
      = around file.toList ++ [stem (fileName file.toList) ++ ".schema.ts".toList] := by
  rw [toList_ofFile]
  exact split_concat_ofFile file.toList (by decide)

/-- Two files have the same module path if they collide, and only then. -/
theorem ofFile_eq_iff {file other : String} : ofFile file = ofFile other ↔ Collide file other := by
  constructor
  · intro same
    have parts := split_ofFile file
    rw [same, split_ofFile] at parts
    obtain ⟨folders, names⟩ := List.append_inj' parts rfl
    exact ⟨folders.symm, List.append_cancel_right (List.singleton_inj.mp names.symm)⟩
  · rintro ⟨folders, names⟩
    rw [← String.toList_inj, toList_ofFile, toList_ofFile, folders, names]

/-! ### Specifiers -/

/-- Every segment of the path is a name: none is empty, a dot or two dots. -/
def IsPlain (path : String) : Prop :=
  ∀ segment ∈ split '/' path.toList, segment ∉ [[], ['.'], ['.', '.']]

instance (path : String) : Decidable (IsPlain path) :=
  inferInstanceAs (Decidable (∀ segment ∈ _, _))

/-- One segment further: a dot stays where it is, and two dots go up. -/
def follow (place : List (List Char)) (segment : List Char) : List (List Char) :=
  if segment = [] ∨ segment = ['.'] then place
  else if segment = ['.', '.'] then place.dropLast
  else place ++ [segment]

/-- Where a specifier leads, as seen from the folder of a module. -/
def resolve (module specifier : String) : String :=
  String.ofList (joinSegments
    ((split '/' specifier.toList).foldl follow (around module.toList)))

/-- Does a specifier start with `./` or `../`? -/
def isMarked (specifier : String) : Bool :=
  specifier.toList.take 2 = ['.', '/'] || specifier.toList.take 3 = ['.', '.', '/']

/-- Does a name start with two dots? -/
def startsWithDots (name : List Char) : Bool :=
  name.take 2 = ['.', '.']

theorem foldl_follow_names {names : List (List Char)}
    (plain : ∀ name ∈ names, name ∉ [[], ['.'], ['.', '.']]) (place : List (List Char)) :
    names.foldl follow place = place ++ names := by
  induction names generalizing place with
  | nil => exact (List.append_nil place).symm
  | cons name names ih =>
    obtain ⟨isName, plain⟩ := List.forall_mem_cons.mp plain
    simp only [List.mem_cons, List.not_mem_nil, or_false, not_or] at isName
    have next : follow place name = place ++ [name] := by
      rw [follow, if_neg (not_or.mpr ⟨isName.1, isName.2.1⟩), if_neg isName.2.2]
    rw [List.foldl_cons, next, ih plain, List.append_assoc]
    rfl

/-- As many steps up as there are folders lead out of them. -/
theorem foldl_follow_up (place up : List (List Char)) :
    (up.map fun _ => ['.', '.']).foldl follow (place ++ up) = place := by
  induction up using List.reverseRecOn with
  | nil => exact List.append_nil place
  | append_singleton up last ih =>
    have front : (up ++ [last]).map (fun _ => ['.', '.'])
        = ['.', '.'] :: up.map fun _ => ['.', '.'] := by
      rw [List.map_const', List.map_const', List.length_append]
      rfl
    have step : follow (place ++ (up ++ [last])) ['.', '.'] = place ++ up := by
      rw [follow, if_neg (by decide), if_pos rfl, ← List.append_assoc, List.dropLast_concat]
    rw [front, List.foldl_cons, step, ih]

/-- What is dropped stands in front of both lists, and what is left begins differently. -/
theorem dropCommon_spec (as bs : List (List Char)) :
    ∃ common, as = common ++ (dropCommon as bs).1 ∧ bs = common ++ (dropCommon as bs).2 ∧
      ((dropCommon as bs).1 ≠ [] → ¬ as <+: bs) := by
  fun_induction dropCommon as bs with
  | case1 as a bs ih =>
    obtain ⟨common, left, right, apart⟩ := ih
    refine ⟨a :: common, congrArg (a :: ·) left, congrArg (a :: ·) right, fun some => ?_⟩
    rw [List.prefix_cons_inj]
    exact apart some
  | case2 a as b bs different =>
    refine ⟨[], rfl, rfl, fun _ within => ?_⟩
    exact different (List.cons_prefix_cons.mp within).1
  | case3 as bs other =>
    refine ⟨[], rfl, rfl, fun some within => ?_⟩
    obtain ⟨a, as, rfl⟩ := List.exists_cons_of_ne_nil some
    obtain ⟨rest, rfl⟩ := within
    exact other a as a (as ++ rest) rfl rfl

/-- A name starts with two dots exactly if it does with the ending of modules. -/
theorem startsWithDots_stem {name : List Char} (isName : name ∉ [[], ['.'], ['.', '.']])
    (ending : List Char) : startsWithDots (stem name ++ '.' :: ending) = startsWithDots name := by
  rcases stem_eq_or name with same | ⟨some, extension, parts⟩
  · rw [same]
    rcases name with _ | ⟨a, _ | ⟨b, rest⟩⟩
    · simp at isName
    · have other : a ≠ '.' := fun isDot => by simp [isDot] at isName
      simp [startsWithDots, other]
    · rfl
  · conv_rhs => rw [parts]
    generalize stem name = front at some
    rcases front with _ | ⟨a, _ | ⟨b, rest⟩⟩
    · exact absurd rfl some
    · rfl
    · rfl

/-- A path starts with two dots exactly if its first name does, and this is no step up then. -/
theorem startsWithDots_joinSegments {first : List Char} (isName : first ∉ [[], ['.'], ['.', '.']])
    (whole : '/' ∉ first) (rest : List (List Char)) :
    startsWithDots (joinSegments (first :: rest)) = startsWithDots first ∧
      (startsWithDots first → (joinSegments (first :: rest)).take 3 ≠ ['.', '.', '/']) := by
  rcases first with _ | ⟨a, _ | ⟨b, _ | ⟨c, more⟩⟩⟩
  · simp at isName
  · have other : a ≠ '.' := fun isDot => by simp [isDot] at isName
    cases rest <;> simp [startsWithDots, joinSegments, other]
  · have other : ¬ (a = '.' ∧ b = '.') := fun ⟨isDot, isDot'⟩ => by simp [isDot, isDot'] at isName
    cases rest <;> simp [startsWithDots, joinSegments, other]
  · have inside : c ≠ '/' := fun isSlash => by simp [isSlash] at whole
    cases rest <;> simp [startsWithDots, joinSegments, inside]

theorem isName_stem (name ending : List Char) (long : 2 < ending.length) :
    stem name ++ ending ∉ [[], ['.'], ['.', '.']] := by
  intro member
  have short : ∀ text ∈ [[], ['.'], ['.', '.']], text.length ≤ 2 := by decide
  have := short _ member
  rw [List.length_append] at this
  omega

/-- The way down to a module is marked unless its first name starts with two dots. -/
theorem isMarked_iff_of_toList_eq {specifier : String} {first : List Char}
    {rest : List (List Char)} (isName : first ∉ [[], ['.'], ['.', '.']]) (whole : '/' ∉ first)
    (isWay : specifier.toList = if startsWithDots (joinSegments (first :: rest))
      then joinSegments (first :: rest) else '.' :: '/' :: joinSegments (first :: rest)) :
    isMarked specifier ↔ ¬ startsWithDots first := by
  obtain ⟨same, noStep⟩ := startsWithDots_joinSegments isName whole rest
  unfold isMarked
  rw [isWay, same]
  by_cases dots : startsWithDots first
  · have noDot : (joinSegments (first :: rest)).take 2 ≠ ['.', '/'] := by
      rw [of_decide_eq_true (same.trans dots)]
      decide
    simp [dots, noDot, noStep dots]
  · simp [dots]

section Plain

variable {source target : String}

theorem folders_of_plain (plain : IsPlain source) :
    folders source.toList = around source.toList := by
  have all : (split '/' source.toList).filter (fun segment => !segment.isEmpty && segment != ['.'])
      = split '/' source.toList := by
    refine List.filter_eq_self.mpr fun segment member => ?_
    have isName := plain segment member
    simp only [List.mem_cons, List.not_mem_nil, or_false, not_or] at isName
    simp [isName.1, isName.2.1]
  rw [folders, all, around]

theorem specifier_eq (source target : String) :
    (specifier source target).toList =
      let joined := joinSegments (relativeSegments source.toList target.toList)
      if startsWithDots joined then joined else '.' :: '/' :: joined := by
  unfold specifier
  dsimp only
  rw [String.toList_ofList]
  split
  · rename_i isJoined
    rw [if_pos (by rw [isJoined]; rfl)]
  · rename_i other
    refine (if_neg fun dots => ?_).symm
    have parts := List.take_append_drop 2
      (joinSegments (relativeSegments source.toList target.toList))
    rw [of_decide_eq_true dots] at parts
    exact other _ parts.symm

/-- The first name on the way down to a module is the first one on the way to the file, but for the
ending. -/
theorem exists_first (plain : IsPlain target) {common down : List (List Char)}
    (right : around target.toList = common ++ down) :
    ∃ first others first' others',
      down ++ [fileName target.toList] = first :: others ∧
      down ++ [stem (fileName target.toList) ++ ".schema".toList] = first' :: others' ∧
      first' ∉ [[], ['.'], ['.', '.']] ∧ '/' ∉ first' ∧
      startsWithDots first' = startsWithDots first := by
  cases down with
  | nil =>
    refine ⟨_, _, _, _, rfl, rfl, isName_stem _ _ (by decide), ?_,
      startsWithDots_stem (plain _ (split_eq _ ▸ by simp)) _⟩
    rw [List.mem_append, not_or]
    exact ⟨slash_notMem_stem _, by decide⟩
  | cons folder down =>
    have inside : folder ∈ around target.toList := right ▸ by simp
    exact ⟨_, _, _, _, rfl, rfl, plain _ ((List.dropLast_sublist _).subset inside),
      slash_notMem_around inside, rfl⟩

variable (plain : IsPlain source) (plain' : IsPlain target)

include plain plain'

/-- The segments of a specifier: as many steps up as needed, then the way down to the module. -/
theorem exists_relativeSegments :
    ∃ common up down, around source.toList = common ++ up ∧ around target.toList = common ++ down ∧
      (up ≠ [] → ¬ around source.toList <+: around target.toList) ∧
      relativeSegments source.toList target.toList = up.map (fun _ => ['.', '.'])
        ++ (down ++ [stem (fileName target.toList) ++ ".schema".toList]) := by
  obtain ⟨common, left, right, apart⟩ :=
    dropCommon_spec (around source.toList) (around target.toList)
  refine ⟨common, _, _, left, right, apart, ?_⟩
  rw [relativeSegments, folders_of_plain plain, folders_of_plain plain', ← List.append_assoc]

/-- The segments of a specifier hold no separator, so they can be told apart in it. -/
theorem split_joinSegments_relativeSegments :
    split '/' (joinSegments (relativeSegments source.toList target.toList))
      = relativeSegments source.toList target.toList := by
  obtain ⟨common, up, down, -, right, -, segments⟩ := exists_relativeSegments plain plain'
  refine split_joinSegments (by rw [segments]; simp) fun segment member => ?_
  rw [segments] at member
  rcases List.mem_append.mp member with isUp | member
  · obtain ⟨_, -, rfl⟩ := List.mem_map.mp isUp
    decide
  · rcases List.mem_append.mp member with isDown | isLast
    · exact slash_notMem_around (right ▸ List.mem_append_right common isDown)
    · rw [List.mem_singleton.mp isLast, List.mem_append, not_or]
      exact ⟨slash_notMem_stem _, by decide⟩

/-- A dot in front of a specifier changes nothing on the way. -/
theorem foldl_follow_specifier (place : List (List Char)) :
    (split '/' (specifier source target).toList).foldl follow place
      = (relativeSegments source.toList target.toList).foldl follow place := by
  have back := split_joinSegments_relativeSegments plain plain'
  rw [specifier_eq]
  dsimp only
  split
  · rw [back]
  · have dot : '/' ∉ ['.'] := by decide
    have front := split_append_cons dot
      (joinSegments (relativeSegments source.toList target.toList))
    rw [List.singleton_append, back] at front
    rw [front, List.foldl_cons]
    rfl

/-- A specifier leads to the module, less the ending. -/
theorem resolve_specifier :
    resolve (ofFile source) (specifier source target) ++ ".ts" = ofFile target := by
  obtain ⟨common, up, down, left, right, -, segments⟩ := exists_relativeSegments plain plain'
  have place : around (ofFile source).toList = around source.toList := by
    rw [around, split_ofFile, List.dropLast_concat]
  have names : ∀ name ∈ down ++ [stem (fileName target.toList) ++ ".schema".toList],
      name ∉ [[], ['.'], ['.', '.']] := by
    intro name member
    rcases List.mem_append.mp member with isDown | isLast
    · refine plain' name ?_
      rw [split_eq, right]
      exact List.mem_append_left _ (List.mem_append_right _ isDown)
    · rw [List.mem_singleton.mp isLast]
      exact isName_stem _ _ (by decide)
  rw [resolve, place, foldl_follow_specifier plain plain', segments, List.foldl_append, left,
    foldl_follow_up, foldl_follow_names names, ← List.append_assoc, ← right, ← String.toList_inj,
    String.toList_append, String.toList_ofList, toList_ofFile, joinSegments_concat,
    joinSegments_concat, List.append_assoc, List.append_assoc]
  rfl

/-- A specifier is marked unless the first name on the way down starts with two dots. -/
theorem isMarked_specifier_iff :
    isMarked (specifier source target) ↔
      ¬ ∃ first rest, split '/' target.toList = around source.toList ++ first :: rest ∧
        startsWithDots first := by
  obtain ⟨common, up, down, left, right, apart, segments⟩ := exists_relativeSegments plain plain'
  by_cases none : up = []
  · rw [none, List.append_nil] at left
    rw [none, List.map_nil, List.nil_append] at segments
    obtain ⟨first, others, first', others', below, way, isName, whole, same⟩ :=
      exists_first plain' right
    have spelled := specifier_eq source target
    rw [segments, way] at spelled
    rw [isMarked_iff_of_toList_eq isName whole spelled, same, split_eq, right, left,
      List.append_assoc, below]
    simp
  · -- The way begins with a step up, so the file is not below the folder.
    obtain ⟨_, higher, rfl⟩ := List.exists_cons_of_ne_nil none
    refine iff_of_true ?_ ?_
    · unfold isMarked
      rw [specifier_eq, segments, List.map_cons, List.cons_append, joinSegments_cons _ (by simp)]
      rfl
    · rintro ⟨first, rest, parts, -⟩
      refine apart none ⟨(first :: rest).dropLast, ?_⟩
      rw [around, around, parts, List.dropLast_append_of_ne_nil (List.cons_ne_nil _ _)]
      rfl

/-- Between files with plain paths, a specifier leads from the folder of the one module to the other
module, less the ending.  It starts with a dot or two and a slash, unless the target lies in or
below the folder and the first name on the way down starts with two dots. -/
theorem specifier_leads :
    resolve (ofFile source) (specifier source target) ++ ".ts" = ofFile target ∧
      (isMarked (specifier source target) ↔
        ¬ ∃ first rest, split '/' target.toList = around source.toList ++ first :: rest ∧
          startsWithDots first) :=
  ⟨resolve_specifier plain plain', isMarked_specifier_iff plain plain'⟩

end Plain

/-- Out of a folder with a dot in its name and into one whose name starts with two dots. -/
theorem specifier_leads_across :
    specifier "src/api.v1/user.ts" "src/..lib/ids.d.ts" = "../..lib/ids.d.schema" ∧
      resolve (ofFile "src/api.v1/user.ts") (specifier "src/api.v1/user.ts" "src/..lib/ids.d.ts")
        ++ ".ts" = ofFile "src/..lib/ids.d.ts" ∧
      isMarked (specifier "src/api.v1/user.ts" "src/..lib/ids.d.ts") := by
  have plain : IsPlain "src/api.v1/user.ts" := by decide +kernel
  have plain' : IsPlain "src/..lib/ids.d.ts" := by decide +kernel
  obtain ⟨leads, marked⟩ := specifier_leads plain plain'
  refine ⟨by decide +kernel, leads, marked.mpr ?_⟩
  rintro ⟨first, rest, below, -⟩
  have apart : (split '/' "src/..lib/ids.d.ts".toList).take 2
      ≠ around "src/api.v1/user.ts".toList := by decide +kernel
  rw [below] at apart
  exact apart (List.take_left' (by decide +kernel))

/-- Into a folder whose name starts with two dots: nothing marks the specifier as a relative one. -/
theorem specifier_unmarked :
    IsPlain "a.ts" ∧ IsPlain "..b/c.ts" ∧ specifier "a.ts" "..b/c.ts" = "..b/c.schema" ∧
      ¬ isMarked (specifier "a.ts" "..b/c.ts") := by
  decide +kernel

end ModulePath

end Schemata
