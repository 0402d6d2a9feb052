import ProseLinter.Proofs.Report.Filling

/-!
# Places behind other text

A name in braces that stands somewhere in a template is a place of the template unless an opening
brace before it has not been closed. In that case the open place goes on up to the closing brace of
the name, and what is known for the name does not matter.

* `Template.openName?` : the place that is open at the end of a text, as one finds it by reading the
  text character by character.
* `Template.filled_append_of_closed` : if none is open, then what follows is filled by itself.
* `Template.fill_placeholder_iff` : when a name in braces is replaced by what is known for it.
* `Template.place_behind_open_brace` : a template in which it is not.
-/

namespace ProseLinter.Template

variable {text name rest a b : List Char} {parts : List Segment}
  {lookup : String → Option String}

/-- A name in braces. -/
def placeholder (key : String) : String :=
  "\x7b" ++ key ++ "\x7d"

theorem toList_append_placeholder (a key b : String) :
    (a ++ placeholder key ++ b).toList =
      a.toList ++ '\x7b' :: (key.toList ++ '\x7d' :: b.toList) := by
  simp [placeholder]

/-! ### Reading a text -/

/-- What the next character of a template does: outside of places an opening brace begins one, and
inside a closing brace ends it. The name of the open place is what has been read of it. -/
def readOn (opened? : Option (List Char)) (c : Char) : Option (List Char) :=
  match opened? with
  | none => if c = '\x7b' then some [] else none
  | some name => if c = '\x7d' then none else some (name ++ [c])

/-- The name, so far, of the place that is open at the end of a text. -/
def openName? (text : List Char) : Option (List Char) :=
  text.foldl readOn none

/-- Without an opening brace no place begins. -/
theorem openName?_of_not_mem (h : '\x7b' ∉ text) : openName? text = none := by
  unfold openName?
  induction text with
  | nil => rfl
  | cons c text ih =>
    rw [List.mem_cons, not_or] at h
    rw [List.foldl_cons, readOn, if_neg (Ne.symm h.1)]
    exact ih h.2

/-- Without a closing brace a place goes on. -/
theorem foldl_readOn_some (h : '\x7d' ∉ rest) (name : List Char) :
    rest.foldl readOn (some name) = some (name ++ rest) := by
  induction rest generalizing name with
  | nil => simp
  | cons c rest ih =>
    rw [List.mem_cons, not_or] at h
    rw [List.foldl_cons, readOn, if_neg (Ne.symm h.1), ih h.2, List.append_assoc]
    rfl

/-- The place that an opening brace begins stays open up to a closing brace. -/
theorem openName?_unclosed (htext : '\x7b' ∉ text) (hrest : '\x7d' ∉ rest) :
    openName? (text ++ '\x7b' :: rest) = some rest := by
  have hopen : readOn none '\x7b' = some [] := rfl
  rw [openName?, List.foldl_append, List.foldl_cons]
  rw [show text.foldl readOn none = none from openName?_of_not_mem htext, hopen]
  exact foldl_readOn_some hrest []

/-- Behind a place reading starts anew. -/
theorem openName?_place (htext : '\x7b' ∉ text) (hname : '\x7d' ∉ name) (rest : List Char) :
    openName? (text ++ '\x7b' :: (name ++ '\x7d' :: rest)) = openName? rest := by
  have hclose (read : List Char) : readOn (some read) '\x7d' = none := rfl
  rw [← List.cons_append, ← List.append_assoc, openName?, List.foldl_append,
    show (text ++ '\x7b' :: name).foldl readOn none = some name from openName?_unclosed htext hname,
    List.foldl_cons, hclose]
  rfl

/-- A text in which a place is open at the end falls into a text with closed places, an opening
brace and the name so far. -/
theorem exists_of_openName? (h : openName? text = some name) :
    ∃ before, text = before ++ '\x7b' :: name ∧ openName? before = none ∧ '\x7d' ∉ name := by
  obtain ⟨parts, hparts⟩ := exists_fallsInto text
  induction hparts with
  | plain htext =>
    rw [openName?_of_not_mem htext] at h
    cases h
  | @unclosed text rest htext hrest =>
    rw [openName?_unclosed htext hrest] at h
    cases h
    exact ⟨text, rfl, openName?_of_not_mem htext, hrest⟩
  | @place text name' rest parts htext hname hparts ih =>
    rw [openName?_place htext hname] at h
    obtain ⟨before, rfl, hbefore, hrest⟩ := ih h
    refine ⟨text ++ '\x7b' :: (name' ++ '\x7d' :: before), by simp, ?_, hrest⟩
    rw [openName?_place htext hname, hbefore]

/-! ### Filling one text after another -/

/-- A text with its places filled. -/
def filled (lookup : String → Option String) (text : List Char) : List Char :=
  (segments text).flatMap (·.fill lookup)

theorem filled_of_not_mem (h : '\x7b' ∉ text) : filled lookup text = text := by
  rw [filled, segments_of_not_mem h]
  simp [Segment.fill]

theorem filled_unclosed (htext : '\x7b' ∉ text) (hrest : '\x7d' ∉ rest) :
    filled lookup (text ++ '\x7b' :: rest) = text ++ '\x7b' :: rest := by
  rw [filled, segments_unclosed htext hrest]
  simp [Segment.fill]

theorem filled_place (htext : '\x7b' ∉ text) (hname : '\x7d' ∉ name) (rest : List Char) :
    filled lookup (text ++ '\x7b' :: (name ++ '\x7d' :: rest)) =
      text ++ (Segment.place name).fill lookup ++ filled lookup rest := by
  rw [filled, segments_place htext hname, List.flatMap_cons, List.flatMap_cons,
    ← List.append_assoc]
  rfl

/-- Text without an opening brace stays as it is, and what follows is filled by itself. -/
theorem filled_append_of_not_mem (htext : '\x7b' ∉ text) (b : List Char) :
    filled lookup (text ++ b) = text ++ filled lookup b := by
  obtain ⟨parts, hparts⟩ := exists_fallsInto b
  cases hparts with
  | plain hb =>
    rw [filled_of_not_mem hb, filled_of_not_mem]
    rw [List.mem_append, not_or]
    exact ⟨htext, hb⟩
  | @unclosed more rest hmore hrest =>
    have hboth : '\x7b' ∉ text ++ more := by
      rw [List.mem_append, not_or]
      exact ⟨htext, hmore⟩
    rw [filled_unclosed hmore hrest, ← List.append_assoc, filled_unclosed hboth hrest,
      List.append_assoc]
  | @place more name rest parts hmore hname hrest =>
    have hboth : '\x7b' ∉ text ++ more := by
      rw [List.mem_append, not_or]
      exact ⟨htext, hmore⟩
    rw [filled_place hmore hname, ← List.append_assoc, filled_place hboth hname]
    simp only [List.append_assoc]

/-- Behind a text in which no place is open, what follows is filled by itself. -/
theorem filled_append_of_closed (h : openName? a = none) (b : List Char) :
    filled lookup (a ++ b) = filled lookup a ++ filled lookup b := by
  obtain ⟨parts, hparts⟩ := exists_fallsInto a
  induction hparts with
  | plain htext => rw [filled_append_of_not_mem htext, filled_of_not_mem htext]
  | unclosed htext hrest =>
    rw [openName?_unclosed htext hrest] at h
    cases h
  | @place text name rest parts htext hname hparts ih =>
    rw [openName?_place htext hname] at h
    have hmove : text ++ '\x7b' :: (name ++ '\x7d' :: rest) ++ b =
        text ++ '\x7b' :: (name ++ '\x7d' :: (rest ++ b)) := by simp
    rw [hmove, filled_place htext hname, filled_place htext hname, ih h]
    simp only [List.append_assoc]

/-- A place right behind a text in which none is open. -/
theorem filled_append_place (h : openName? a = none) (hname : '\x7d' ∉ name) (b : List Char) :
    filled lookup (a ++ '\x7b' :: (name ++ '\x7d' :: b)) =
      filled lookup a ++ (Segment.place name).fill lookup ++ filled lookup b := by
  have hplace : filled lookup ([] ++ '\x7b' :: (name ++ '\x7d' :: b)) =
      [] ++ (Segment.place name).fill lookup ++ filled lookup b :=
    filled_place List.not_mem_nil hname b
  rw [List.nil_append, List.nil_append] at hplace
  rw [filled_append_of_closed h, hplace, List.append_assoc]

/-! ### A name in braces behind other text -/

/-- What is written for a name in braces behind an open place: the open place goes on, and what
comes before and behind it is filled by itself. -/
theorem filled_append_open (h : openName? a = none) (hname : '\x7d' ∉ name) {key : List Char}
    (hkey : '\x7d' ∉ key) (b : List Char) :
    filled lookup (a ++ '\x7b' :: name ++ '\x7b' :: (key ++ '\x7d' :: b)) =
      filled lookup a ++ (Segment.place (name ++ '\x7b' :: key)).fill lookup ++
        filled lookup b := by
  have hboth : '\x7d' ∉ name ++ '\x7b' :: key := by
    simp [hname, hkey]
  rw [← filled_append_place h hboth]
  simp

/-- What is written for an open place up to the end of a text. -/
theorem filled_open (h : openName? a = none) (hname : '\x7d' ∉ name) :
    filled lookup (a ++ '\x7b' :: name) = filled lookup a ++ '\x7b' :: name := by
  have hrest : filled lookup ([] ++ '\x7b' :: name) = [] ++ '\x7b' :: name :=
    filled_unclosed List.not_mem_nil hname
  rw [filled_append_of_closed h]
  exact congrArg _ hrest

/-- Something is known only for names without braces, as it is for the places of all formats. -/
def KnowsPlainNames (lookup : String → Option String) : Prop :=
  ∀ key value, lookup key = some value → '\x7b' ∉ key.toList ∧ '\x7d' ∉ key.toList

theorem knowsPlainNames_fileField (r : FileResult) : KnowsPlainNames (fileField r) := by
  intro key value h
  unfold fileField at h
  split at h
  · decide
  · cases h

theorem knowsPlainNames_messageField (r : FileResult) (m : Message) :
    KnowsPlainNames (messageField r m) := by
  intro key value h
  unfold messageField at h
  split at h
  case h_6 => exact knowsPlainNames_fileField r key value h
  all_goals decide

theorem knowsPlainNames_summaryField (s : Summary) : KnowsPlainNames (summaryField s) := by
  intro key value h
  unfold summaryField at h
  split at h
  case h_4 => cases h
  all_goals decide

/-- Something is known for a name without a closing brace. The name in braces is replaced by it, and
what comes before and behind is filled by itself, exactly unless the text before it leaves a place
open: then it has to be by chance that what is written for the longer name, which goes on up to the
closing brace, is the open brace with the name so far and the value. If something is known for
names without braces only, that is so if the value is the name in braces itself. -/
theorem fill_placeholder_iff {key value : String} (hkey : '\x7d' ∉ key.toList)
    (hvalue : lookup key = some value) (a b : String) :
    (fill (a ++ placeholder key ++ b) lookup = fill a lookup ++ value ++ fill b lookup ↔
      ∀ name, openName? a.toList = some name →
        (Segment.place (name ++ '\x7b' :: key.toList)).fill lookup =
          '\x7b' :: name ++ value.toList) ∧
    (KnowsPlainNames lookup →
      (fill (a ++ placeholder key ++ b) lookup = fill a lookup ++ value ++ fill b lookup ↔
        openName? a.toList = none ∨ value = placeholder key)) := by
  have hplace : (Segment.place key.toList).fill lookup = value.toList := by
    rw [Segment.fill, String.ofList_toList, hvalue]
  have hfill : fill (a ++ placeholder key ++ b) lookup = fill a lookup ++ value ++ fill b lookup ↔
      filled lookup (a.toList ++ '\x7b' :: (key.toList ++ '\x7d' :: b.toList)) =
        filled lookup a.toList ++ value.toList ++ filled lookup b.toList := by
    rw [← String.toList_inj, fill, toList_append_placeholder, String.toList_ofList]
    simp only [fill, String.toList_append, String.toList_ofList]
    rfl
  rw [hfill]
  cases hopen : openName? a.toList with
  | none => simp [filled_append_place hopen hkey, hplace]
  | some name =>
    obtain ⟨before, ha, hbefore, hname⟩ := exists_of_openName? hopen
    rw [ha, filled_append_open hbefore hname hkey, filled_open hbefore hname]
    -- What comes before the open brace and behind the name is the same on both sides.
    have hcancel : filled lookup before ++
          (Segment.place (name ++ '\x7b' :: key.toList)).fill lookup ++ filled lookup b.toList =
        filled lookup before ++ '\x7b' :: name ++ value.toList ++ filled lookup b.toList ↔
          (Segment.place (name ++ '\x7b' :: key.toList)).fill lookup =
            '\x7b' :: name ++ value.toList := by
      rw [List.append_cancel_right_eq, List.append_assoc, List.append_cancel_left_eq]
    rw [hcancel]
    constructor
    · simp
    · intro hplain
      have hunknown : lookup (String.ofList (name ++ '\x7b' :: key.toList)) = none := by
        rw [Option.eq_none_iff_forall_ne_some]
        intro other hother
        exact (hplain _ other hother).1 (by simp)
      rw [Segment.fill, hunknown, ← String.toList_inj]
      simp [placeholder, eq_comm]

/-- Stray closing braces and names for which nothing is known do not matter. -/
theorem fill_placeholder_iff_behind_stray_braces :
    let lookup := summaryField ⟨2, 1, 1⟩
    let a := "a\x7d \x7bx \x7b y\x7d "
    '\x7d' ∉ "total".toList ∧ lookup "total" = some "2" ∧ KnowsPlainNames lookup ∧
      openName? a.toList = none ∧
      fill (a ++ placeholder "total" ++ " \x7b") lookup =
        fill a lookup ++ "2" ++ fill " \x7b" lookup := by
  intro lookup a
  have hkey : '\x7d' ∉ "total".toList := by decide
  have hvalue : lookup "total" = some "2" := rfl
  have hplain : KnowsPlainNames lookup := knowsPlainNames_summaryField _
  have hclosed : openName? a.toList = none := by decide
  exact ⟨hkey, hvalue, hplain, hclosed,
    ((fill_placeholder_iff hkey hvalue a " \x7b").2 hplain).2 (.inl hclosed)⟩

/-- A format for a summary in JSON: the brace of the object is taken for the start of a place, so
that the number of problems is not written. -/
theorem place_behind_open_brace :
    let lookup := summaryField (Summary.ofResults [])
    let a := "\x7b\"total\": "
    '\x7b' ∉ "total".toList ∧ '\x7d' ∉ "total".toList ∧ lookup "total" = some "0" ∧
      format { summary := a ++ placeholder "total" ++ "\x7d" } [] =
        .ok "\x7b\"total\": \x7btotal\x7d\x7d" ∧
      fill a lookup ++ "0" ++ fill "\x7d" lookup = "\x7b\"total\": 0\x7d" ∧
      fill (a ++ placeholder "total" ++ "\x7d") lookup ≠
        fill a lookup ++ "0" ++ fill "\x7d" lookup := by
  decide +kernel

end ProseLinter.Template
