import Mathlib.Data.List.Basic

/-!
# Text exposition of metrics

An exposition is a list of families, each a HELP line, a TYPE line and the samples.  Written
out as text, line after line, it can be read back line by line without knowing where the
families are:

    (render families).toList.splitOn '\n' = … ++ [[]]                     (splitOn_render)
    what the lines are = HELP, TYPE and the samples of each family         (classify_lines)
-/

namespace Exposition

structure Sample where
  label : Option (String × String)
  value : String
  deriving DecidableEq, Repr

structure Family where
  name : String
  help : String
  kind : String
  samples : List Sample
  deriving DecidableEq, Repr

def Sample.line (name : String) (s : Sample) : String :=
  match s.label with
  | none => name ++ " " ++ s.value
  | some (key, value) => name ++ "\x7b" ++ key ++ "=\"" ++ value ++ "\"\x7d " ++ s.value

namespace Family

def helpLine (f : Family) : String := "# HELP " ++ f.name ++ " " ++ f.help

def typeLine (f : Family) : String := "# TYPE " ++ f.name ++ " " ++ f.kind

def lines (f : Family) : List String :=
  f.helpLine :: f.typeLine :: f.samples.map (Sample.line f.name)

end Family

/-- Each line is terminated. -/
def text : List String → String
  | [] => ""
  | line :: rest => line ++ "\n" ++ text rest

def render (families : List Family) : String := text (families.flatMap Family.lines)

/-! ## Writing -/

theorem text_append (a b : List String) : text (a ++ b) = text a ++ text b := by
  induction a with
  | nil => simp [text]
  | cons line a ih => simp [text, ih, String.append_assoc]

theorem render_append (a b : List Family) : render (a ++ b) = render a ++ render b := by
  unfold render
  rw [List.flatMap_append, text_append]

theorem render_cons (f : Family) (families : List Family) :
    render (f :: families) = text f.lines ++ render families := by
  unfold render
  rw [List.flatMap_cons, text_append]

/-- A loop that appends line after line. -/
theorem foldl_text {α : Type} {append : String → α → String} {line : α → String}
    (happend : ∀ out a, append out a = out ++ (line a ++ "\n")) (items : List α) (out : String) :
    items.foldl append out = out ++ text (items.map line) := by
  induction items generalizing out with
  | nil => simp [text]
  | cons a items ih => rw [List.foldl_cons, ih, happend, List.map_cons, text, String.append_assoc]

/-! ## Plain text -/

/-- Without a line break. -/
def Plain (s : String) : Prop := '\n' ∉ s.toList

theorem Plain.ofList {l : List Char} (h : '\n' ∉ l) : Plain (String.ofList l) := by
  unfold Plain
  rwa [String.toList_ofList]

theorem Plain.append {s t : String} (hs : Plain s) (ht : Plain t) : Plain (s ++ t) := by
  unfold Plain at hs ht ⊢
  rw [String.toList_append, List.mem_append]
  exact not_or.2 ⟨hs, ht⟩

theorem plain_toString (n : ℕ) : Plain (toString n) := by
  show '\n' ∉ (Nat.repr n).toList
  rw [Nat.toList_repr]
  intro h
  have hdigit := Nat.isDigit_of_mem_toDigits (by decide) (by decide) h
  revert hdigit
  decide

def isNameChar (c : Char) : Bool := c.isAlphanum || c == '_'

/-- The name of a metric. -/
def IsName (s : String) : Prop := ∀ c ∈ s.toList, isNameChar c = true

theorem IsName.ofList {l : List Char} (h : l.all isNameChar = true) : IsName (String.ofList l) := by
  unfold IsName
  rw [String.toList_ofList]
  exact List.all_eq_true.1 h

theorem IsName.plain {s : String} (h : IsName s) : Plain s := by
  intro hbreak
  have hchar := h _ hbreak
  revert hchar
  decide

structure Sample.WellFormed (s : Sample) : Prop where
  label : ∀ key value, s.label = some (key, value) → Plain key ∧ Plain value
  value : Plain s.value

structure Family.WellFormed (f : Family) : Prop where
  name : IsName f.name
  help : Plain f.help
  kind : Plain f.kind
  samples : ∀ s ∈ f.samples, s.WellFormed

theorem Sample.plain_line {name : String} (hname : IsName name) {s : Sample} (hs : s.WellFormed) :
    Plain (s.line name) := by
  unfold Sample.line
  split
  · exact (hname.plain.append (.ofList (by decide))).append hs.value
  · next key value hlabel =>
    obtain ⟨hkey, hvalue⟩ := hs.label key value hlabel
    have hopen : Plain "\x7b" := .ofList (by decide)
    have hquote : Plain "=\"" := .ofList (by decide)
    have hclose : Plain "\"\x7d " := .ofList (by decide)
    exact (((((hname.plain.append hopen).append hkey).append hquote).append hvalue).append
      hclose).append hs.value

theorem Family.plain_lines {f : Family} (hf : f.WellFormed) : ∀ line ∈ f.lines, Plain line := by
  have hblank : Plain " " := .ofList (by decide)
  intro line hline
  unfold Family.lines at hline
  rcases List.mem_cons.1 hline with rfl | hline
  · have hmark : Plain "# HELP " := .ofList (by decide)
    exact ((hmark.append hf.name.plain).append hblank).append hf.help
  · rcases List.mem_cons.1 hline with rfl | hline
    · have hmark : Plain "# TYPE " := .ofList (by decide)
      exact ((hmark.append hf.name.plain).append hblank).append hf.kind
    · obtain ⟨s, hs, rfl⟩ := List.mem_map.1 hline
      exact Sample.plain_line hf.name (hf.samples s hs)

/-! ## Reading -/

theorem splitOn_text {lines : List String} (h : ∀ line ∈ lines, Plain line) :
    (text lines).toList.splitOn '\n' = lines.map String.toList ++ [[]] := by
  induction lines with
  | nil => rfl
  | cons line lines ih =>
    have htext : (text (line :: lines)).toList = line.toList ++ '\n' :: (text lines).toList := by
      simp [text, String.toList_append]
    rw [htext, List.splitOn_append_cons_self_of_not_mem (h line List.mem_cons_self),
      ih fun other hother => h other (List.mem_cons_of_mem line hother)]
    rfl

/-- The text is made of terminated lines, those of its families. -/
theorem splitOn_render {families : List Family} (h : ∀ f ∈ families, f.WellFormed) :
    (render families).toList.splitOn '\n' =
      (families.flatMap Family.lines).map String.toList ++ [[]] := by
  apply splitOn_text
  intro line hline
  obtain ⟨f, hf, hline⟩ := List.mem_flatMap.1 hline
  exact Family.plain_lines (h f hf) line hline

/-- What a line of the text is, by its first characters, and the metric it is about. -/
inductive Line where
  | help (name : List Char)
  | type (name : List Char)
  | sample (name : List Char)
  deriving DecidableEq, Repr

def classify (line : List Char) : Line :=
  match "# HELP ".toList.isPrefixOf? line with
  | some rest => .help (rest.takeWhile isNameChar)
  | none =>
    match "# TYPE ".toList.isPrefixOf? line with
    | some rest => .type (rest.takeWhile isNameChar)
    | none => .sample (line.takeWhile isNameChar)

/-- HELP and TYPE of a family, then its samples. -/
def Family.shape (f : Family) : List Line :=
  .help f.name.toList :: .type f.name.toList :: f.samples.map fun _ => .sample f.name.toList

theorem takeWhile_name {name : String} (hname : IsName name) {c : Char} {rest : List Char}
    (hc : isNameChar c = false) : (name.toList ++ c :: rest).takeWhile isNameChar = name.toList := by
  rw [List.takeWhile_append_of_pos hname, List.takeWhile_cons_of_neg (by simp [hc]), List.append_nil]

/-- No line of samples starts like one of the two headers. -/
theorem classify_sample {name : String} (hname : IsName name) {c : Char} {rest : List Char}
    (hc : isNameChar c = false) (hmark : c ≠ '#') :
    classify (name.toList ++ c :: rest) = .sample name.toList := by
  have hfirst : ∀ mark : List Char, ('#' :: mark).isPrefixOf? (name.toList ++ c :: rest) = none := by
    intro mark
    cases hstart : name.toList with
    | nil => simp [List.isPrefixOf?, hmark.symm]
    | cons d tail =>
      have hd := hname d (by rw [hstart]; exact List.mem_cons_self)
      have hne : ('#' == d) = false := by
        rw [beq_eq_false_iff_ne]
        rintro rfl
        revert hd
        decide
      simp [List.isPrefixOf?, hne]
  have hhelp : "# HELP ".toList.isPrefixOf? (name.toList ++ c :: rest) = none := hfirst _
  have htype : "# TYPE ".toList.isPrefixOf? (name.toList ++ c :: rest) = none := hfirst _
  unfold classify
  rw [hhelp, htype]
  dsimp only
  rw [takeWhile_name hname hc]

theorem Family.classify_helpLine {f : Family} (hname : IsName f.name) :
    classify f.helpLine.toList = .help f.name.toList := by
  have hline : f.helpLine.toList =
      "# HELP ".toList ++ (f.name.toList ++ ' ' :: f.help.toList) := by
    simp [helpLine, String.toList_append]
  unfold classify
  rw [hline, List.isPrefixOf?_eq_some_iff_append_eq.2 rfl]
  dsimp only
  rw [takeWhile_name hname (by decide)]

theorem Family.classify_typeLine {f : Family} (hname : IsName f.name) :
    classify f.typeLine.toList = .type f.name.toList := by
  have hline : f.typeLine.toList =
      "# TYPE ".toList ++ (f.name.toList ++ ' ' :: f.kind.toList) := by
    simp [typeLine, String.toList_append]
  have hnot : "# HELP ".toList.isPrefixOf? f.typeLine.toList = none := by
    rw [hline]
    rfl
  unfold classify
  rw [hnot, hline, List.isPrefixOf?_eq_some_iff_append_eq.2 rfl]
  dsimp only
  rw [takeWhile_name hname (by decide)]

theorem Sample.classify_line {name : String} (hname : IsName name) (s : Sample) :
    classify (s.line name).toList = .sample name.toList := by
  unfold Sample.line
  split
  · have hline : (name ++ " " ++ s.value).toList = name.toList ++ ' ' :: s.value.toList := by
      simp [String.toList_append]
    rw [hline]
    exact classify_sample hname (by decide) (by decide)
  · next key value hlabel =>
    have hline : (name ++ "\x7b" ++ key ++ "=\"" ++ value ++ "\"\x7d " ++ s.value).toList =
        name.toList ++ '\x7b' :: (key ++ "=\"" ++ value ++ "\"\x7d " ++ s.value).toList := by
      simp [String.toList_append]
    rw [hline]
    exact classify_sample hname (by decide) (by decide)

/-- Line by line, the text shows its families. -/
theorem classify_lines {families : List Family} (h : ∀ f ∈ families, IsName f.name) :
    (families.flatMap Family.lines).map (fun line => classify line.toList) =
      families.flatMap Family.shape := by
  induction families with
  | nil => rfl
  | cons f families ih =>
    have hname : IsName f.name := h f List.mem_cons_self
    have hsamples : (f.samples.map (Sample.line f.name)).map (fun line => classify line.toList) =
        f.samples.map fun _ => .sample f.name.toList := by
      rw [List.map_map]
      exact List.map_congr_left fun s _ => Sample.classify_line hname s
    rw [List.flatMap_cons, List.flatMap_cons, List.map_append,
      ih fun g hg => h g (List.mem_cons_of_mem f hg)]
    congr 1
    unfold Family.lines Family.shape
    rw [List.map_cons, List.map_cons, Family.classify_helpLine hname,
      Family.classify_typeLine hname, hsamples]

end Exposition
