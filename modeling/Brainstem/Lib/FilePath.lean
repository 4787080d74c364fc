import Mathlib.Data.List.DropRight
import Mathlib.Tactic.Common

/-!
# Paths as they are written

A path is its text.  Repeated separators, a `.` and what trails the last component make another
text of the same path; what is asked of a path depends on its components, which follow the
operations:

    (p.join q).components = p.components ++ q.components      q relative   (components_join)
    p.parent = some d → d.components = p.components.dropLast               (components_parent)
-/

structure FilePath where
  text : List Char
  deriving DecidableEq, Repr

namespace FilePath

inductive Component where
  | rootDir
  | curDir
  | parentDir
  | normal (name : String)
  deriving DecidableEq, Repr

/-- What stands between two separators; nothing and `.` are no components. -/
def Component.ofText : List Char → Option Component
  | [] => none
  | ['.'] => none
  | ['.', '.'] => some .parentDir
  | name => some (.normal (String.ofList name))

def parse (text : String) : FilePath := ⟨text.toList⟩

def display (self : FilePath) : String := String.ofList self.text

/-! ## Components -/

/-- Of the root separator, or of the `.` that begins a relative path. -/
def lenBeforeBody : List Char → ℕ
  | '/' :: _ => 1
  | ['.'] => 1
  | '.' :: '/' :: _ => 1
  | _ => 0

def start (self : FilePath) : List Char := self.text.take (lenBeforeBody self.text)

def body (self : FilePath) : List Char := self.text.drop (lenBeforeBody self.text)

def startComponents (start : List Char) : List Component :=
  if start = ['/'] then [.rootDir] else if start = ['.'] then [.curDir] else []

def components (self : FilePath) : List Component :=
  startComponents self.start ++ (self.body.splitOn '/').filterMap Component.ofText

/-- The pieces up to the last one that is a component. -/
def trimRight (pieces : List (List Char)) : List (List Char) :=
  pieces.rdropWhile fun piece => (Component.ofText piece).isNone

def parent (self : FilePath) : Option FilePath :=
  let pieces := trimRight (self.body.splitOn '/')
  if pieces = [] then
    if self.start = ['.'] then some ⟨[]⟩ else none
  else some ⟨self.start ++ ['/'].intercalate (trimRight pieces.dropLast)⟩

def fileName (self : FilePath) : Option String :=
  match self.components.getLast? with
  | some (.normal name) => some name
  | _ => none

/-- What follows the last dot of the file name, if something stands before it. -/
def extension (self : FilePath) : Option String :=
  match self.fileName with
  | none => none
  | some name =>
    match name.toList.reverse.span (· ≠ '.') with
    | (after, _ :: _ :: _) => some (String.ofList after.reverse)
    | _ => none

/-- An absolute `path` replaces the whole. -/
def join (self : FilePath) (path : String) : FilePath :=
  if path.toList.head? = some '/' then parse path
  else if self.text = [] ∨ self.text.getLast? = some '/' then ⟨self.text ++ path.toList⟩
  else ⟨self.text ++ '/' :: path.toList⟩

/-- The text goes on after the last component, with separators or with `.`. -/
def trails (self : FilePath) : Bool :=
  (self.text.splitOn '/').getLast?.any fun piece => (Component.ofText piece).isNone

example : (parse "a//b/./snn_model.MEM/").components =
      [.normal "a", .normal "b", .normal "snn_model.MEM"] ∧
    (parse "a//b/./snn_model.MEM/").parent = some (parse "a//b") ∧
    (parse "a/.").trails = true ∧ (parse "./a").components = [.curDir, .normal "a"] ∧
    (parse "./a").parent = some (parse ".") ∧ (parse "//a").parent = some (parse "/") ∧
    (parse "a").parent = some (parse "") ∧ (parse "/").parent = none ∧
    (parse "hub/snn_model.MEM").extension = some "MEM" ∧ (parse "hub/.mem").extension = none ∧
    (parse "hub/").join "config.json" = parse "hub/config.json" ∧
    (parse "hub//").join "config.json" = parse "hub//config.json" := by
  decide

/-! ## What is cut off and put together -/

section Pieces

variable {s t : List Char} {pieces : List (List Char)}

theorem not_mem_of_mem_splitOn {piece : List Char} (h : piece ∈ s.splitOn '/') : '/' ∉ piece := by
  induction s generalizing piece with
  | nil =>
    rw [List.splitOn_nil, List.mem_singleton] at h
    rw [h]
    exact List.not_mem_nil
  | cons c s ih =>
    rw [List.splitOn_cons_eq_if_modifyHead] at h
    split at h
    · rcases List.mem_cons.1 h with rfl | h
      · exact List.not_mem_nil
      · exact ih h
    · next hc =>
      cases hs : s.splitOn '/' with
      | nil => exact absurd hs (List.splitOn_ne_nil '/' s)
      | cons first rest =>
        rw [hs, List.modifyHead_cons, List.mem_cons] at h
        rw [hs] at ih
        rcases h with rfl | h
        · rw [List.mem_cons, not_or]
          exact ⟨fun heq => hc (beq_iff_eq.2 heq.symm), ih List.mem_cons_self⟩
        · exact ih (List.mem_cons_of_mem _ h)

theorem filterMap_concat_none {piece : List Char} (h : Component.ofText piece = none) :
    (pieces ++ [piece]).filterMap Component.ofText = pieces.filterMap Component.ofText := by
  rw [List.filterMap_append, List.filterMap_cons_none h, List.filterMap_nil, List.append_nil]

theorem filterMap_concat_some {piece : List Char} {component : Component}
    (h : Component.ofText piece = some component) : (pieces ++ [piece]).filterMap Component.ofText =
      pieces.filterMap Component.ofText ++ [component] := by
  rw [List.filterMap_append, List.filterMap_cons_some h, List.filterMap_nil]

/-- Either no piece is a component, or the last piece that is left is the last component. -/
theorem trimRight_cases (pieces : List (List Char)) :
    (trimRight pieces = [] ∧ pieces.filterMap Component.ofText = []) ∨
      ∃ init piece component, trimRight pieces = init ++ [piece] ∧ init ++ [piece] <+: pieces ∧
        Component.ofText piece = some component ∧
        pieces.filterMap Component.ofText = init.filterMap Component.ofText ++ [component] := by
  unfold trimRight
  induction pieces using List.reverseRecOn with
  | nil => exact .inl ⟨rfl, rfl⟩
  | append_singleton pieces piece ih =>
    cases hpiece : Component.ofText piece with
    | none =>
      rw [List.rdropWhile_concat_pos _ _ _ (by rw [hpiece]; rfl), filterMap_concat_none hpiece]
      rcases ih with ih | ⟨init, last, component, htrim, hprefix, hlast, hcomponents⟩
      · exact .inl ih
      · exact .inr ⟨init, last, component, htrim, hprefix.trans (List.prefix_append _ _), hlast,
          hcomponents⟩
    | some component =>
      rw [List.rdropWhile_concat_neg _ _ _ (by rw [hpiece]; exact Bool.false_ne_true)]
      exact .inr ⟨pieces, piece, component, rfl, List.prefix_refl _, hpiece,
        filterMap_concat_some hpiece⟩

/-- What is trimmed holds no component. -/
theorem filterMap_trimRight (pieces : List (List Char)) :
    (trimRight pieces).filterMap Component.ofText = pieces.filterMap Component.ofText := by
  rcases trimRight_cases pieces with ⟨htrim, hnone⟩ |
    ⟨init, piece, component, htrim, -, hpiece, hsome⟩
  · rw [htrim, hnone, List.filterMap_nil]
  · rw [htrim, hsome, filterMap_concat_some hpiece]

theorem intercalate_append (hne : pieces ≠ []) (piece : List Char) (rest : List (List Char)) :
    ['/'].intercalate (pieces ++ piece :: rest) =
      ['/'].intercalate pieces ++ '/' :: ['/'].intercalate (piece :: rest) := by
  induction pieces with
  | nil => exact absurd rfl hne
  | cons first pieces ih =>
    cases pieces with
    | nil =>
      rw [List.singleton_append, List.intercalate_cons_cons, List.intercalate_singleton,
        List.append_assoc]
      rfl
    | cons second pieces =>
      rw [List.cons_append, List.cons_append, List.intercalate_cons_cons, ← List.cons_append,
        ih (List.cons_ne_nil _ _), List.intercalate_cons_cons, List.append_assoc, List.append_assoc,
        List.append_assoc]

end Pieces

/-! ## The start of a text -/

section Start

variable {t q : List Char}

/-- A separator after a text that is not empty begins nothing. -/
theorem lenBeforeBody_append_sep (ht : t ≠ []) (q : List Char) :
    lenBeforeBody (t ++ '/' :: q) = lenBeforeBody t := by
  match t with
  | [] => exact absurd rfl ht
  | '/' :: _ => rfl
  | ['.'] => rfl
  | '.' :: '/' :: _ => rfl
  | [c] =>
    by_cases hslash : c = '/'
    · rw [hslash]
      rfl
    · by_cases hdot : c = '.'
      · rw [hdot]
        rfl
      · simp [lenBeforeBody, hslash, hdot]
  | c :: d :: t =>
    by_cases hslash : c = '/'
    · rw [hslash]
      rfl
    · by_cases hdot : c = '.' ∧ d = '/'
      · rw [hdot.1, hdot.2]
        rfl
      · unfold lenBeforeBody
        split <;> split <;> simp_all

theorem lenBeforeBody_le (t : List Char) : lenBeforeBody t ≤ t.length := by
  unfold lenBeforeBody
  split <;> simp

theorem take_lenBeforeBody (t : List Char) :
    t.take (lenBeforeBody t) = ['/'] ∨ t.take (lenBeforeBody t) = ['.'] ∨
      t.take (lenBeforeBody t) = [] := by
  unfold lenBeforeBody
  split
  · exact .inl rfl
  · exact .inr (.inl rfl)
  · exact .inr (.inl rfl)
  · exact .inr (.inr rfl)

theorem components_mk {start body : List Char}
    (h : lenBeforeBody (start ++ body) = start.length) : components ⟨start ++ body⟩ =
      startComponents start ++ (body.splitOn '/').filterMap Component.ofText := by
  unfold components FilePath.start FilePath.body
  dsimp only
  rw [h, List.take_left, List.drop_left]

/-- The text begins with its start. -/
theorem text_eq (p : FilePath) : p.text = p.start ++ p.body := (List.take_append_drop _ _).symm

theorem length_start (p : FilePath) : p.start.length = lenBeforeBody p.text :=
  List.length_take_of_le (lenBeforeBody_le p.text)

theorem lenBeforeBody_start (p : FilePath) : lenBeforeBody p.start = p.start.length := by
  rcases take_lenBeforeBody p.text with h | h | h <;>
    rw [show p.start = _ from h] <;> rfl

theorem startComponents_ne_normal (p : FilePath) {init : List Component} {name : String} :
    startComponents p.start ≠ init ++ [.normal name] := by
  intro h
  have hlast := congrArg List.getLast? h
  rw [List.getLast?_concat] at hlast
  rcases take_lenBeforeBody p.text with hs | hs | hs <;>
    rw [show p.start = _ from hs] at hlast <;> cases hlast

end Start

/-! ## Joining -/

section Join

variable {p : FilePath} {path : String}

theorem components_append_sep {t : List Char} (ht : t ≠ []) (q : List Char) :
    components ⟨t ++ '/' :: q⟩ = components ⟨t⟩ ++ (q.splitOn '/').filterMap Component.ofText := by
  have hlen : lenBeforeBody (t ++ '/' :: q) = lenBeforeBody t := lenBeforeBody_append_sep ht q
  have htext : t ++ '/' :: q = t.take (lenBeforeBody t) ++ (t.drop (lenBeforeBody t) ++ '/' :: q) := by
    rw [← List.append_assoc, List.take_append_drop]
  rw [htext, components_mk, List.splitOn_append_cons_self, List.filterMap_append, ← List.append_assoc]
  · rfl
  · rw [← htext, hlen, List.length_take_of_le (lenBeforeBody_le t)]

theorem relative_of_lenBeforeBody (hpath : lenBeforeBody path.toList = 0) :
    path.toList.head? ≠ some '/' := by
  intro hhead
  obtain ⟨q, hcons⟩ := List.head?_eq_some_iff.1 hhead
  rw [hcons] at hpath
  cases hpath

/-- `path` begins with a name. -/
theorem components_join (hpath : lenBeforeBody path.toList = 0) :
    (p.join path).components = p.components ++ (parse path).components := by
  have hq : (parse path).components = (path.toList.splitOn '/').filterMap Component.ofText := by
    unfold components FilePath.start FilePath.body parse
    rw [hpath]
    rfl
  unfold join
  rw [if_neg (relative_of_lenBeforeBody hpath), hq]
  obtain ⟨t⟩ := p
  dsimp only
  by_cases hnil : t = []
  · rw [if_pos (.inl hnil), hnil]
    exact hq
  · split
    · next hsep =>
      obtain ⟨u, hu⟩ := List.getLast?_eq_some_iff.1 (hsep.resolve_left hnil)
      rw [hu, List.append_assoc, List.singleton_append]
      cases u with
      | nil => rfl
      | cons c u =>
        rw [components_append_sep (List.cons_ne_nil c u), components_append_sep (List.cons_ne_nil c u),
          List.splitOn_nil]
        exact congrArg (· ++ _) (List.append_nil _).symm
    · exact components_append_sep hnil _

theorem trails_append_sep (t q : List Char) : trails ⟨t ++ '/' :: q⟩ = trails ⟨q⟩ := by
  unfold trails
  rw [List.splitOn_append_cons_self, List.getLast?_append_of_ne_nil _ (List.splitOn_ne_nil '/' q)]

theorem trails_join (hpath : path.toList.head? ≠ some '/') :
    (p.join path).trails = (parse path).trails := by
  unfold join
  rw [if_neg hpath]
  obtain ⟨t⟩ := p
  dsimp only
  split
  · next hsep =>
    rcases hsep with hnil | hsep
    · rw [hnil]
      rfl
    · obtain ⟨u, hu⟩ := List.getLast?_eq_some_iff.1 hsep
      rw [hu, List.append_assoc, List.singleton_append]
      exact trails_append_sep u _
  · exact trails_append_sep t _

/-- Two texts of one path, and nothing trails its last component. -/
structure Respells (a b : FilePath) : Prop where
  components : a.components = b.components
  left : a.trails = false
  right : b.trails = false

/-- A file below a directory, whose text may be another one. -/
theorem Respells.join {a b : FilePath} (h : a.components = b.components)
    (hpath : lenBeforeBody path.toList = 0) (htrails : (parse path).trails = false) :
    (a.join path).Respells (b.join path) := by
  have hrelative := relative_of_lenBeforeBody hpath
  refine ⟨?_, (trails_join hrelative).trans htrails, (trails_join hrelative).trans htrails⟩
  rw [components_join hpath, components_join hpath, h]

end Join

/-! ## Going up -/

section Parent

variable {p : FilePath}

/-- A text that is cut at a separator of its body keeps its start. -/
theorem lenBeforeBody_cut {pieces : List (List Char)} (h : pieces <+: p.body.splitOn '/') :
    lenBeforeBody (p.start ++ ['/'].intercalate pieces) = p.start.length := by
  obtain ⟨rest, hrest⟩ := h
  have hbody : ['/'].intercalate (p.body.splitOn '/') = p.body := List.intercalate_splitOn '/'
  rcases List.eq_nil_or_concat pieces with rfl | ⟨init, last, hpieces⟩
  · rw [List.intercalate_nil, List.append_nil]
    exact p.lenBeforeBody_start
  · have hne : pieces ≠ [] := by simp [hpieces]
    cases rest with
    | nil =>
      rw [← hrest, List.append_nil] at hbody
      rw [hbody, ← text_eq, length_start]
    | cons piece rest =>
      rw [← hrest, intercalate_append hne] at hbody
      have htext := p.text_eq
      rw [← hbody, ← List.append_assoc] at htext
      by_cases hnil : p.start ++ ['/'].intercalate pieces = []
      · rw [hnil, (List.append_eq_nil_iff.1 hnil).1]
        rfl
      · rw [length_start, htext, lenBeforeBody_append_sep hnil]

theorem components_cut {pieces : List (List Char)} (h : pieces <+: p.body.splitOn '/') :
    components ⟨p.start ++ ['/'].intercalate pieces⟩ =
      startComponents p.start ++ pieces.filterMap Component.ofText := by
  rw [components_mk (lenBeforeBody_cut h)]
  by_cases hne : pieces = []
  · rw [hne]
    rfl
  · have hfree : ∀ piece ∈ pieces, '/' ∉ piece := fun piece hpiece =>
      not_mem_of_mem_splitOn (h.subset hpiece)
    rw [List.splitOn_intercalate '/' hfree hne]

/-- Above a name is what comes before it. -/
theorem components_parent {init : List Component} {name : String}
    (h : p.components = init ++ [.normal name]) : ∃ d, p.parent = some d ∧ d.components = init := by
  unfold components at h
  rcases trimRight_cases (p.body.splitOn '/') with ⟨-, hnone⟩ |
    ⟨pieces, last, component, htrim, hprefix, -, hsome⟩
  · rw [hnone, List.append_nil] at h
    exact absurd h (startComponents_ne_normal p)
  · rw [hsome, ← List.append_assoc] at h
    have hinit := (List.append_inj' h rfl).1
    refine ⟨⟨p.start ++ ['/'].intercalate (trimRight pieces)⟩, ?_, ?_⟩
    · unfold parent
      dsimp only
      rw [htrim, if_neg (by simp), List.dropLast_concat]
    · have hcut : trimRight pieces <+: p.body.splitOn '/' :=
        (List.rdropWhile_prefix _ _).trans ((List.prefix_append _ _).trans hprefix)
      rw [components_cut hcut, filterMap_trimRight, hinit]

theorem fileName_of_components {init : List Component} {name : String}
    (h : p.components = init ++ [.normal name]) : p.fileName = some name := by
  unfold fileName
  rw [h, List.getLast?_concat]

theorem trails_body {t : List Char} (ht : trails ⟨t⟩ = false) : trails ⟨body ⟨t⟩⟩ = trails ⟨t⟩ := by
  unfold body lenBeforeBody
  dsimp only
  split
  · next q => exact (trails_append_sep [] q).symm
  · cases ht
  · next q => exact (trails_append_sep [] q).trans (trails_append_sep ['.'] q).symm
  · rfl

theorem trimRight_of_trails {t : List Char} (ht : trails ⟨t⟩ = false) :
    trimRight (t.splitOn '/') = t.splitOn '/' := by
  unfold trimRight
  rw [List.rdropWhile_eq_self_iff]
  intro hne
  unfold trails at ht
  dsimp only at ht
  rw [List.getLast?_eq_some_getLast hne, Option.any_some] at ht
  rw [ht]
  exact Bool.false_ne_true

/-- Above a name that was written after a separator is what was written before it. -/
theorem parent_append_sep {t name : List Char} {component : Component}
    (ht : trails ⟨t⟩ = false) (hname : '/' ∉ name)
    (hcomponent : Component.ofText name = some component) :
    parent ⟨t ++ '/' :: name⟩ = some ⟨t⟩ := by
  have hnil : t ≠ [] := by
    rintro rfl
    cases ht
  have hlen : lenBeforeBody (t ++ '/' :: name) = lenBeforeBody t := lenBeforeBody_append_sep hnil name
  have hstart : start ⟨t ++ '/' :: name⟩ = start ⟨t⟩ := by
    unfold start
    rw [hlen, List.take_append_of_le_length (lenBeforeBody_le t)]
  have hbody : body ⟨t ++ '/' :: name⟩ = body ⟨t⟩ ++ '/' :: name := by
    unfold body
    rw [hlen, List.drop_append_of_le_length (lenBeforeBody_le t)]
  have hkept := trimRight_of_trails ((trails_body ht).trans ht)
  unfold parent
  dsimp only
  rw [hstart, hbody, List.splitOn_append_cons_self, List.splitOn_eq_singleton hname]
  have hlast : trimRight ((body ⟨t⟩).splitOn '/' ++ [name]) = (body ⟨t⟩).splitOn '/' ++ [name] := by
    unfold trimRight
    rw [List.rdropWhile_concat_neg _ _ _ (by rw [hcomponent]; exact Bool.false_ne_true)]
  rw [hlast, if_neg (by simp), List.dropLast_concat, hkept, List.intercalate_splitOn]
  exact congrArg (fun text : List Char => some (FilePath.mk text)) (text_eq ⟨t⟩).symm

end Parent

end FilePath
