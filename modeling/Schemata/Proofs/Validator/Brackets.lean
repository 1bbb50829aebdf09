import Schemata.Proofs.Number.Text
import Schemata.Proofs.Validator.Parts
import Schemata.Validator.Render

/-!
# Brackets in rendered validators

A reader of source text keeps a stack of the brackets that are open, and passes over string
literals.  A text is well bracketed if the reader comes through with an empty stack.  Keys,
literals, patterns and messages are arbitrary texts, but they stand in string literals with their
quotes and backslashes escaped, or are identifiers.  So a rendered validator is well bracketed as
long as the names in it hold no brackets and no quotes.

## Main definitions

* `SourcePlace.read` : where a reader stands after a text.
* `WellBracketed` : brackets and string literals are closed, and properly nested.
* `Takes` : what a piece of source text does to the stack of open brackets.
* `ValidatorKind.Named` : there is no hand-written expression, and names hold no brackets or quotes.

## Main results

* `takes_quote` : a quoted text is one string literal.
* `Modifier.takes_apply`, `Validator.takes_renderKind` : what one modifier and one kind add.
* `Validator.wellBracketed_render` : rendered validators are well bracketed.
-/

namespace Schemata

/-! ### Reading source text -/

/-- Where a reader of source text stands.  A bracket that is open is known by the one that closes
it, the innermost first. -/
inductive SourcePlace
  | code (opened : List Char)
  /-- In a string literal. -/
  | literal (opened : List Char)
  /-- In a string literal, after a backslash. -/
  | escape (opened : List Char)
deriving DecidableEq, Repr

namespace SourcePlace

/-- The place after a character, unless it is a bracket that does not fit or a line that ends inside
a string literal. -/
def next : SourcePlace → Char → Option SourcePlace
  | code opened, c =>
    match c with
    | '"' => some (literal opened)
    | '(' => some (code (')' :: opened))
    | '[' => some (code (']' :: opened))
    | '{' => some (code ('}' :: opened))
    | c =>
      if c ∈ [')', ']', '}'] then
        match opened with
        | [] => none
        | expected :: outer => if c = expected then some (code outer) else none
      else some (code opened)
  | literal opened, c =>
    match c with
    | '"' => some (code opened)
    | '\\' => some (escape opened)
    | c => if c ∈ ['\n', '\r'] then none else some (literal opened)
  | escape opened, _ => some (literal opened)

/-- The place after a text. -/
def read (place : SourcePlace) (text : List Char) : Option SourcePlace :=
  text.foldlM next place

theorem read_append (place : SourcePlace) (text rest : List Char) :
    place.read (text ++ rest) = (place.read text).bind (·.read rest) :=
  List.foldlM_append

theorem read_cons (place : SourcePlace) (c : Char) (rest : List Char) :
    place.read (c :: rest) = (place.next c).bind (·.read rest) :=
  rfl

end SourcePlace

/-- Brackets outside of string literals are closed, in the right order, and so is every string
literal. -/
def WellBracketed (text : String) : Prop :=
  (SourcePlace.code []).read text.toList = some (.code [])

instance (text : String) : Decidable (WellBracketed text) :=
  inferInstanceAs (Decidable (_ = _))

/-- Reading a text as code takes the open brackets from `before` to `after`, whatever is open around
them. -/
def Takes (text : String) (before after : List Char) : Prop :=
  ∀ outer, (SourcePlace.code (before ++ outer)).read text.toList = some (.code (after ++ outer))

namespace Takes

variable {text text' : String} {before between after : List Char}

theorem append (first : Takes text before between) (second : Takes text' between after) :
    Takes (text ++ text') before after := by
  intro outer
  rw [String.toList_append, SourcePlace.read_append, first outer]
  exact second outer

/-- A text that leaves nothing open is passed over inside brackets too. -/
theorem inside (neutral : Takes text [] []) (opened : List Char) : Takes text opened opened :=
  fun outer => neutral (opened ++ outer)

/-- A text between others that open and close the same brackets. -/
theorem wrap {front back : String} (opens : Takes front [] between) (neutral : Takes text [] [])
    (closes : Takes back between []) : Takes (front ++ text ++ back) [] [] :=
  (opens.append (neutral.inside between)).append closes

theorem wellBracketed (neutral : Takes text [] []) : WellBracketed text :=
  neutral []

end Takes

/-! ### Texts without brackets -/

/-- The characters that count outside of string literals. -/
def marks : List Char :=
  ['"', '(', ')', '[', ']', '{', '}']

/-- The text holds no brackets and no quotes. -/
def Bare (text : String) : Prop :=
  ∀ c ∈ text.toList, c ∉ marks

instance (text : String) : Decidable (Bare text) :=
  decidable_of_iff (text.toList.all (· ∉ marks)) (by simp [Bare])

theorem SourcePlace.next_code {c : Char} (plain : c ∉ marks) (opened : List Char) :
    (code opened).next c = some (code opened) := by
  simp only [marks, List.mem_cons, not_or] at plain
  unfold next
  grind

theorem takes_bare {text : String} (bare : Bare text) : Takes text [] [] := by
  intro outer
  have passed (chars : List Char) (plain : ∀ c ∈ chars, c ∉ marks) :
      (SourcePlace.code outer).read chars = some (.code outer) := by
    induction chars with
    | nil => rfl
    | cons c rest ih =>
      obtain ⟨first, others⟩ := List.forall_mem_cons.mp plain
      rw [SourcePlace.read_cons, SourcePlace.next_code first]
      exact ih others
  exact passed text.toList bare

theorem bare_of_isIdentifier {name : String} (identifier : isIdentifier name.toList) :
    Bare name := by
  have parts : ∀ c ∈ name.toList, isIdentifierPart c := by
    cases chars : name.toList with
    | nil => simp
    | cons first rest =>
      rw [chars, isIdentifier, Bool.and_eq_true, List.all_eq_true] at identifier
      refine List.forall_mem_cons.mpr ⟨?_, identifier.2⟩
      rw [isIdentifierPart, identifier.1, Bool.true_or]
  intro c member mark
  have part := parts c member
  simp only [marks, List.mem_cons, List.not_mem_nil, or_false] at mark
  rcases mark with rfl | rfl | rfl | rfl | rfl | rfl | rfl <;> cases part

theorem bare_toSource (d : Double) : Bare d.toSource := by
  intro c member mark
  have char := d.isTextChar_toSource c member
  simp only [marks, List.mem_cons, List.not_mem_nil, or_false] at mark
  rcases mark with rfl | rfl | rfl | rfl | rfl | rfl | rfl <;> cases char

/-! ### Quoted texts -/

/-- The characters that cannot stand for themselves in a string literal. -/
def literalMarks : List Char :=
  ['"', '\\', '\n', '\r']

theorem SourcePlace.next_literal {c : Char} (plain : c ∉ literalMarks) (opened : List Char) :
    (literal opened).next c = some (literal opened) := by
  simp only [literalMarks, List.mem_cons, not_or] at plain
  unfold next
  grind

theorem digitChar_not_mem : ∀ n < 16, Nat.digitChar n ∉ literalMarks := by
  decide

theorem SourcePlace.read_literal_hex4 (n : Nat) (opened : List Char) :
    (literal opened).read (Quoted.hex4 n) = some (literal opened) := by
  have digit (m : Nat) : (literal opened).next (Nat.digitChar (m % 16)) = some (literal opened) :=
    next_literal (digitChar_not_mem _ (Nat.mod_lt _ (by decide))) opened
  simp only [Quoted.hex4, read_cons, digit, Option.bind_some]
  rfl

theorem SourcePlace.read_literal_escape (c : Char) (opened : List Char) :
    (literal opened).read (Quoted.escape c) = some (literal opened) := by
  unfold Quoted.escape
  split
  case h_8 quote backslash _ _ lineFeed _ carriageReturn =>
    split
    · exact read_literal_hex4 c.toNat opened
    · have plain : c ∉ literalMarks := by
        simp only [literalMarks, List.mem_cons, List.not_mem_nil, or_false, not_or]
        exact ⟨quote, backslash, lineFeed, carriageReturn⟩
      rw [read_cons, next_literal plain]
      rfl
  all_goals rfl

/-- A quoted text is one string literal. -/
theorem takes_quote (text : String) : Takes (Quoted.quote text) [] [] := by
  intro outer
  have inner (chars : List Char) : (SourcePlace.literal outer).read (chars.flatMap Quoted.escape)
      = some (.literal outer) := by
    induction chars with
    | nil => rfl
    | cons c rest ih =>
      rw [List.flatMap_cons, SourcePlace.read_append, SourcePlace.read_literal_escape]
      exact ih
  have opened : (SourcePlace.code outer).read ('"' :: text.toList.flatMap Quoted.escape)
      = some (.literal outer) := inner text.toList
  rw [Quoted.quote, String.toList_ofList, Quoted.quoteChars, SourcePlace.read_append,
    List.nil_append, opened]
  rfl

theorem takes_objectKey (name : String) : Takes (objectKey name) [] [] := by
  unfold objectKey
  split
  case isTrue identifier => exact takes_bare (bare_of_isIdentifier identifier)
  case isFalse => exact takes_quote name

/-! ### Lists -/

theorem commaList_cons_cons (first second : String) (rest : List String) :
    commaList (first :: second :: rest) = first ++ ", " ++ commaList (second :: rest) := by
  apply String.toList_inj.mp
  simp [commaList]

theorem takes_commaList {texts : List String} (neutral : ∀ text ∈ texts, Takes text [] []) :
    Takes (commaList texts) [] [] := by
  induction texts with
  | nil => exact fun _ => rfl
  | cons first rest ih =>
    obtain ⟨here, later⟩ := List.forall_mem_cons.mp neutral
    cases rest with
    | nil => exact here
    | cons second rest =>
      have comma : Takes ", " [] [] := fun _ => rfl
      rw [commaList_cons_cons]
      exact (here.append comma).append (ih later)

/-! ### Modifiers -/

theorem takes_keyMask (keys : List String) : Takes (keyMask keys) [] [] := by
  unfold keyMask
  split
  · exact fun _ => rfl
  · have opens : Takes "\x7b " [] ['}'] := fun _ => rfl
    have marked : Takes ": true" [] [] := fun _ => rfl
    refine opens.wrap (takes_commaList fun text member => ?_) fun _ => rfl
    obtain ⟨key, -, rfl⟩ := List.mem_map.mp member
    exact (takes_objectKey key).append marked

theorem takes_boundCall {method : String} (bare : Bare method) (bound : Option Double) :
    Takes (boundCall method bound) [] [] := by
  cases bound with
  | none => exact fun _ => rfl
  | some bound =>
    have dot : Takes "." [] [] := fun _ => rfl
    have opens : Takes "(" [] [')'] := fun _ => rfl
    exact ((dot.append (takes_bare bare)).append opens).wrap (takes_bare (bare_toSource bound))
      fun _ => rfl

/-- A modifier leaves no bracket open, whatever keys and texts it has. -/
theorem Modifier.takes_apply {expr : String} (neutral : Takes expr [] []) (modifier : Modifier) :
    Takes (modifier.apply expr) [] [] := by
  cases modifier with
  | optional => exact neutral.append fun _ => rfl
  | nullable => exact neutral.append fun _ => rfl
  | readonly => exact neutral.append fun _ => rfl
  | toPartial => exact neutral.append fun _ => rfl
  | toRequired => exact neutral.append fun _ => rfl
  | pick keys =>
    have opens : Takes ".pick(" [] [')'] := fun _ => rfl
    exact (neutral.append opens).wrap (takes_keyMask keys) fun _ => rfl
  | «omit» keys =>
    have opens : Takes ".omit(" [] [')'] := fun _ => rfl
    exact (neutral.append opens).wrap (takes_keyMask keys) fun _ => rfl
  | bounds min max =>
    exact (neutral.append (takes_boundCall (by decide) min)).append
      (takes_boundCall (by decide) max)
  | pattern text =>
    have opens : Takes ".regex(new RegExp(" [] [')', ')'] := fun _ => rfl
    exact (neutral.append opens).wrap (takes_quote text) fun _ => rfl
  | message text =>
    have opens : Takes "withMessage(" [] [')'] := fun _ => rfl
    have comma : Takes ", " [] [] := fun _ => rfl
    exact ((opens.append (neutral.inside _)).append (comma.inside _)).wrap (takes_quote text)
      fun _ => rfl

theorem takes_foldl_apply {expr : String} (neutral : Takes expr [] []) (modifiers : List Modifier) :
    Takes (modifiers.foldl Modifier.apply expr) [] [] := by
  induction modifiers generalizing expr with
  | nil => exact neutral
  | cons modifier rest ih => exact ih (modifier.takes_apply neutral)

/-! ### Kinds -/

/-- No hand-written expression, and names without brackets and quotes. -/
def ValidatorKind.Named : ValidatorKind → Prop
  | .ref name _ | .deferred name _ | .param name => Bare name
  | .generic params _ => ∀ param ∈ params, Bare param
  | .expression _ | .template _ _ => False
  | _ => True

instance : DecidablePred ValidatorKind.Named
  | .ref name _ | .deferred name _ | .param name => inferInstanceAs (Decidable (Bare name))
  | .generic params _ => inferInstanceAs (Decidable (∀ param ∈ params, Bare param))
  | .expression _ | .template _ _ => .isFalse id
  | .primitive _ | .literal _ | .array _ | .tuple _ | .object _ | .union _ | .intersection _
  | .record _ _ | .function _ _ => .isTrue trivial

theorem Primitive.takes_render (type : Primitive) : Takes type.render [] [] := by
  have bare : Bare type.name := by cases type <;> decide
  have library : Takes "z." [] [] := fun _ => rfl
  have call : Takes "()" [] [] := fun _ => rfl
  have named : Takes s!"z.{type.name}()" [] [] := (library.append (takes_bare bare)).append call
  cases type with
  | integer => exact fun _ => rfl
  | _ => exact named

theorem takes_schemaCall {suffix name : String} (ending : Bare suffix) (bare : Bare name)
    {args : List String} (neutral : ∀ text ∈ args, Takes text [] []) :
    Takes (schemaCall suffix name args) [] [] := by
  have schema : Takes (schemaName suffix name) [] [] :=
    (takes_bare bare).append (takes_bare ending)
  have opens : Takes "(" [] [')'] := fun _ => rfl
  unfold schemaCall
  split
  · exact schema
  · exact (schema.append opens).wrap (takes_commaList neutral) fun _ => rfl

theorem takes_intersectionText {texts : List String} (neutral : ∀ text ∈ texts, Takes text [] []) :
    Takes (intersectionText texts) [] [] := by
  have folded {acc : String} (start : Takes acc [] []) (rest : List String)
      (neutral : ∀ text ∈ rest, Takes text [] []) :
      Takes (rest.foldl (fun acc next => s!"z.intersection({acc}, {next})") acc) [] [] := by
    induction rest generalizing acc with
    | nil => exact start
    | cons next rest ih =>
      obtain ⟨here, later⟩ := List.forall_mem_cons.mp neutral
      have opens : Takes "z.intersection(" [] [')'] := fun _ => rfl
      have comma : Takes ", " [] [] := fun _ => rfl
      exact ih (((opens.append (start.inside _)).append (comma.inside _)).wrap here fun _ => rfl)
        later
  cases texts with
  | nil => exact fun _ => rfl
  | cons first rest =>
    obtain ⟨here, later⟩ := List.forall_mem_cons.mp neutral
    exact folded here rest later

theorem takes_genericParams {params : List String} (bare : ∀ param ∈ params, Bare param) :
    Takes (genericParams params) [] [] := by
  refine takes_commaList fun text member => ?_
  obtain ⟨param, listed, rfl⟩ := List.mem_map.mp member
  have typed : Takes ": z.ZodTypeAny = z.any()" [] [] := fun _ => rfl
  exact (takes_bare (bare param listed)).append typed

namespace Validator

theorem renderList_eq_map (suffix : String) (vs : List Validator) :
    renderList suffix vs = vs.map (render suffix) := by
  induction vs with
  | nil => rfl
  | cons v rest ih => exact congrArg (render suffix v :: ·) ih

theorem takes_renderList {suffix : String} {vs : List Validator}
    (neutral : ∀ v ∈ vs, Takes (render suffix v) [] []) :
    ∀ text ∈ renderList suffix vs, Takes text [] [] := by
  rw [renderList_eq_map]
  exact List.forall_mem_map.mpr neutral

theorem takes_renderEntries {suffix : String} {entries : List (String × Validator)}
    (neutral : ∀ v ∈ entries.map Prod.snd, Takes (render suffix v) [] []) :
    ∀ text ∈ renderEntries suffix entries, Takes text [] [] := by
  have colon : Takes ": " [] [] := fun _ => rfl
  induction entries with
  | nil => exact nofun
  | cons entry rest ih =>
    obtain ⟨name, v⟩ := entry
    obtain ⟨here, later⟩ := List.forall_mem_cons.mp neutral
    exact List.forall_mem_cons.mpr
      ⟨((takes_objectKey name).append colon).append here, ih later⟩

theorem takes_literal (suffix : String) (value : Literal) :
    Takes (renderKind suffix (.literal value)) [] [] := by
  have opens : Takes "z.literal(" [] [')'] := fun _ => rfl
  have closes : Takes ")" [')'] [] := fun _ => rfl
  cases value with
  | string text => exact opens.wrap (takes_quote text) closes
  | number value => exact opens.wrap (takes_bare (bare_toSource value)) closes
  | boolean value =>
    have bare : Bare (Literal.boolean value).toSource := by cases value <;> decide
    exact opens.wrap (takes_bare bare) closes
  | null =>
    change Takes "z.null()" [] []
    exact fun _ => rfl

/-- A kind leaves no bracket open if the validators inside do not. -/
theorem takes_renderKind {suffix : String} (ending : Bare suffix) {kind : ValidatorKind}
    (named : kind.Named) (neutral : ∀ child ∈ kind.children, Takes (render suffix child) [] []) :
    Takes (renderKind suffix kind) [] [] := by
  have comma : Takes ", " [] [] := fun _ => rfl
  cases kind with
  | primitive type =>
    exact type.takes_render
  | literal value => exact takes_literal suffix value
  | array element =>
    have opens : Takes "z.array(" [] [')'] := fun _ => rfl
    exact opens.wrap (neutral element List.mem_cons_self) fun _ => rfl
  | tuple items =>
    have opens : Takes "z.tuple([" [] [']', ')'] := fun _ => rfl
    exact opens.wrap (takes_commaList (takes_renderList neutral)) fun _ => rfl
  | object entries =>
    cases entries with
    | nil =>
      change Takes "z.object(\x7b\x7d)" [] []
      exact fun _ => rfl
    | cons entry rest =>
      have opens : Takes "z.object(\x7b " [] ['}', ')'] := fun _ => rfl
      exact opens.wrap (takes_commaList (takes_renderEntries neutral)) fun _ => rfl
  | union members =>
    have opens : Takes "z.union([" [] [']', ')'] := fun _ => rfl
    exact opens.wrap (takes_commaList (takes_renderList neutral)) fun _ => rfl
  | intersection members => exact takes_intersectionText (takes_renderList neutral)
  | record key value =>
    obtain ⟨keys, values⟩ := List.forall_mem_cons.mp neutral
    have opens : Takes "z.record(" [] [')'] := fun _ => rfl
    exact ((opens.append (keys.inside _)).append (comma.inside _)).wrap
      (values value List.mem_cons_self) fun _ => rfl
  | function params returns =>
    obtain ⟨inputs, output⟩ := List.forall_mem_append.mp neutral
    have opens : Takes "z.function().args(" [] [')'] := fun _ => rfl
    have between : Takes ").returns(" [')'] [')'] := fun _ => rfl
    have args := takes_commaList (takes_renderList inputs)
    exact ((opens.append (args.inside _)).append between).wrap
      (output returns List.mem_cons_self) fun _ => rfl
  | ref name args => exact takes_schemaCall ending named (takes_renderList neutral)
  | deferred name args =>
    have opens : Takes "z.lazy(() => " [] [')'] := fun _ => rfl
    exact opens.wrap (takes_schemaCall ending named (takes_renderList neutral)) fun _ => rfl
  | generic params body =>
    have opens : Takes "(" [] [')'] := fun _ => rfl
    have arrow : Takes ") => " [')'] [] := fun _ => rfl
    exact (opens.wrap (takes_genericParams named) arrow).append (neutral body List.mem_cons_self)
  | param name => exact takes_bare named
  | expression text => exact named.elim
  | template text base => exact named.elim

theorem takes_render {suffix : String} (ending : Bare suffix) {v : Validator}
    (named : v.Everywhere ValidatorKind.Named) : Takes (v.render suffix) [] [] := by
  induction v using children_induction with
  | step v ih =>
    obtain ⟨root, inside⟩ := everywhere_iff.mp named
    obtain ⟨kind, modifiers⟩ := v
    exact takes_foldl_apply
      (takes_renderKind ending root fun child member => ih child member (inside child member))
      modifiers

/-- A validator without hand-written expressions, whose names and suffix hold no brackets and no
quotes, as no identifier does, is rendered as a well-bracketed text.  Keys, literals, patterns and
messages may be any texts. -/
theorem wellBracketed_render {suffix : String} (ending : Bare suffix) {v : Validator}
    (named : v.Everywhere ValidatorKind.Named) : WellBracketed (v.render suffix) :=
  (takes_render ending named).wellBracketed

/-- Brackets, quotes and backslashes in all places that take any text. -/
def thorny : Validator :=
  .mk (.generic ["T"] (.mk (.object [
      ("a\"b(", .mk (.literal (.string "\\")) [.message "]\"\n"]),
      ("items", .mk (.deferred "Box" [ofKind (.param "T")]) [.pick [")", "id"], .omit ["\x7b"]]),
      ("name", .mk (.primitive .string) [.pattern "^[\"\\(]+$"])])
    [.message "\\\""])) [.optional]

theorem wellBracketed_render_thorny :
    Bare "Schema" ∧ thorny.Everywhere ValidatorKind.Named ∧
      WellBracketed (thorny.render "Schema") := by
  have ending : Bare "Schema" := by decide
  have named : thorny.Everywhere ValidatorKind.Named := by
    show ∀ w ∈ thorny.parts, w.kind.Named
    decide +kernel
  exact ⟨ending, named, wellBracketed_render ending named⟩

end Validator

end Schemata
