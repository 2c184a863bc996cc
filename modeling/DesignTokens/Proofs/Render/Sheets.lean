import DesignTokens.Proofs.Mapping.Resolution
import DesignTokens.Render.Classes

/-!
What class sheets take from their context. A document asks the mapper for one name after the other:
the names are fixed by the settings and the document (`documentNames`), and the answers are all that
its classes take from the context. A sheet of several inputs hands one context through all of them:

    default input ──▶ input 0 ──▶ input 1 ──▶ …        the context after each is the one before,
       base           section 0   section 1            asked for the names of its document

Since being asked for names changes no answer, each section is the one that the first context would
have given (`sectionsInTurn_eq`).
-/

namespace DesignTokens

/-- Contexts with the same keywords that give every name the same answer. -/
structure Context.Alike (x y : Context) : Prop where
  keywords : x.keywords = y.keywords
  answer : x.answer = y.answer

namespace Context.Alike

theorem refl (x : Context) : x.Alike x := ⟨rfl, rfl⟩

theorem lookAll {x y : Context} (h : x.Alike y) (names more : List Text) :
    (x.lookAll names).Alike (y.lookAll more) where
  keywords := by rw [keywords_lookAll, keywords_lookAll, h.keywords]
  answer := by
    funext name
    rw [answer_lookAll, answer_lookAll, h.answer]

end Context.Alike

/-! ### The classes of one document -/

namespace ClassBlock

/-- One token further, its property answered by a rule. -/
def answeredStep (c : Config) (answer : Text → Resolution) (block : ClassBlock) (t : Token) :
    ClassBlock :=
  let property := propertyName c t.path
  block.declare (className c t.path) ((answer property).outputs property) (cssValue c t)

/-- The classes of a document when a rule answers for the names of its tokens. -/
def answered (c : Config) (keywords : KeywordSet) (answer : Text → Resolution) (document : Json) :
    ClassBlock :=
  (Token.extract c.naming keywords document).foldl (answeredStep c answer) []

end ClassBlock

/-- The names that a document asks for, in the order of its tokens. -/
def documentNames (c : Config) (keywords : KeywordSet) (document : Json) : List Text :=
  (Token.extract c.naming keywords document).map (propertyName c ·.path)

/-- Collecting tokens is answering and looking, side by side. -/
theorem foldl_step (c : Config) (tokens : List Token) (block : ClassBlock) (x : Context) :
    tokens.foldl (ClassBlock.step c) (block, x) =
      (tokens.foldl (ClassBlock.answeredStep c x.answer) block,
        x.lookAll (tokens.map (propertyName c ·.path))) := by
  induction tokens generalizing block x with
  | nil => rfl
  | cons t tokens ih =>
    have hstep : ClassBlock.step c (block, x) t =
        (ClassBlock.answeredStep c x.answer block t, x.look (propertyName c t.path)) := rfl
    have hanswer : (x.look (propertyName c t.path)).answer = x.answer :=
      funext fun name => Context.answer_look x _ name
    rw [List.foldl_cons, hstep, ih, hanswer]
    rfl

theorem ofDocument_eq (c : Config) (x : Context) (document : Json) :
    ClassBlock.ofDocument c x document =
      (ClassBlock.answered c x.keywords x.answer document,
        x.lookAll (documentNames c x.keywords document)) :=
  foldl_step c _ [] x

/-! ### The sections of the other inputs -/

/-- The documents of the inputs except the default one, the first input being at `index`. -/
def otherDocuments (default index : Nat) (sources : List Source) : List Json :=
  (sources.zipIdx index).filterMap fun p => if p.2 = default then none else p.1.document

theorem otherDocuments_cons (default index : Nat) (source : Source) (sources : List Source) :
    otherDocuments default index (source :: sources) =
      (if index = default then none else source.document).toList ++
        otherDocuments default (index + 1) sources := by
  unfold otherDocuments
  rw [List.zipIdx_cons, List.filterMap_cons]
  simp only
  cases (if index = default then none else source.document) <;> rfl

/-- The section of an input, and the context after it; the default input has none, nor has one
without a document. -/
def sectionAt (c : Config) (variants : List FileVariant) (default index : Nat) (x : Context)
    (source : Source) : Text × Context :=
  match if index = default then none else source.document with
  | none => ([], x)
  | some document =>
    let (block, x) := ClassBlock.ofDocument c x document
    (inputSection c variants index source.name block, x)

/-- The sections of the inputs from an index on, the context handed on from one to the next. -/
def sectionsInTurn (c : Config) (variants : List FileVariant) (default : Nat) :
    Nat → Context → List Source → List Text
  | _, _, [] => []
  | index, x, source :: rest =>
    let here := sectionAt c variants default index x source
    here.1 :: sectionsInTurn c variants default (index + 1) here.2 rest

section
variable (c : Config) (variants : List FileVariant) (default index : Nat) {x y : Context}

theorem context_sectionAt (x : Context) (source : Source) :
    (sectionAt c variants default index x source).2 =
      x.lookAll ((if index = default then none else source.document).toList.flatMap
        (documentNames c x.keywords)) := by
  unfold sectionAt
  cases if index = default then none else source.document with
  | none => rfl
  | some document => simp [ofDocument_eq]

theorem text_sectionAt (h : x.Alike y) (source : Source) :
    (sectionAt c variants default index x source).1 =
      (sectionAt c variants default index y source).1 := by
  unfold sectionAt
  cases if index = default then none else source.document with
  | none => rfl
  | some document => simp only [ofDocument_eq, h.keywords, h.answer]

theorem sectionsFrom_cons (x : Context) (source : Source) (sources : List Source) :
    sectionsFrom c variants default index x (source :: sources) =
      let here := sectionAt c variants default index x source
      let more := sectionsFrom c variants default (index + 1) here.2 sources
      (here.1 ++ more.1, more.2) := by
  unfold sectionAt
  rw [sectionsFrom]
  cases if index = default then none else source.document <;> rfl

theorem context_sectionsFrom (x : Context) (sources : List Source) :
    (sectionsFrom c variants default index x sources).2 =
      x.lookAll ((otherDocuments default index sources).flatMap (documentNames c x.keywords)) := by
  induction sources generalizing index x with
  | nil => rfl
  | cons source sources ih =>
    rw [sectionsFrom_cons, otherDocuments_cons, List.flatMap_append, Context.lookAll_append]
    simp only [context_sectionAt, ih, Context.keywords_lookAll]

theorem text_sectionsFrom (x : Context) (sources : List Source) :
    (sectionsFrom c variants default index x sources).1 =
      (sectionsInTurn c variants default index x sources).flatten := by
  induction sources generalizing index x with
  | nil => rfl
  | cons source sources ih =>
    rw [sectionsFrom_cons, sectionsInTurn, List.flatten_cons]
    simp only [ih]

/-- The sections of a loop are those that one context gives to each input by itself. -/
theorem sectionsInTurn_eq (h : x.Alike y) (sources : List Source) :
    sectionsInTurn c variants default index x sources =
      (sources.zipIdx index).map fun p => (sectionAt c variants default p.2 y p.1).1 := by
  induction sources generalizing index x with
  | nil => rfl
  | cons source sources ih =>
    have hnext : (sectionAt c variants default index x source).2.Alike y := by
      rw [context_sectionAt]
      exact h.lookAll _ []
    rw [sectionsInTurn, List.zipIdx_cons, List.map_cons, ih (index + 1) hnext,
      text_sectionAt c variants default index h]

end

/-! ### Sheets -/

/-- The rules of the default input, if it has any. -/
def baseText (c : Config) (variants : List FileVariant) (x : Context) (default : Nat) :
    Option Json → Text
  | none => []
  | some document =>
    baseSection (baseLabel c variants default) (ClassBlock.answered c x.keywords x.answer document)

/-- A sheet of several inputs: the default one is asked first, then the others in their order. -/
theorem responsiveSheet_eq (c : Config) (x : Context) (sources : List Source) (default : Nat) :
    responsiveSheet c x sources default =
      let variants := c.fileVariants sources.length
      let base := documentAt sources default
      let more := sectionsFrom c variants default 0
        (x.lookAll (base.toList.flatMap (documentNames c x.keywords))) sources
      (sheetHeader c.responsive ++ baseText c variants x default base ++ more.1, more.2) := by
  unfold responsiveSheet
  cases documentAt sources default with
  | none => rfl
  | some document =>
    simp only [ofDocument_eq, Option.toList_some, List.flatMap_cons, List.flatMap_nil,
      List.append_nil]
    rfl

/-- The documents that a class pass reads, in the order in which it reads them. -/
def classDocuments (c : Config) (sources : List Source) : List Json :=
  (documentAt sources c.defaultFile.toNat).toList ++
    otherDocuments c.defaultFile.toNat 0 sources

theorem baseText_congr (c : Config) (variants : List FileVariant) {x y : Context} (h : x.Alike y)
    (default : Nat) (document : Option Json) :
    baseText c variants x default document = baseText c variants y default document := by
  cases document with
  | none => rfl
  | some document => rw [baseText, baseText, h.keywords, h.answer]

theorem text_responsiveSheet (c : Config) {x y : Context} (h : x.Alike y) (sources : List Source)
    (default : Nat) :
    (responsiveSheet c x sources default).1 = (responsiveSheet c y sources default).1 := by
  rw [responsiveSheet_eq, responsiveSheet_eq]
  simp only [text_sectionsFrom]
  rw [baseText_congr c _ h, sectionsInTurn_eq c _ default 0 (h.lookAll _ []),
    sectionsInTurn_eq c _ default 0 ((Context.Alike.refl y).lookAll _ [])]

theorem context_responsiveSheet (c : Config) (x : Context) (sources : List Source) :
    (responsiveSheet c x sources c.defaultFile.toNat).2 =
      x.lookAll ((classDocuments c sources).flatMap (documentNames c x.keywords)) := by
  rw [responsiveSheet_eq]
  simp only
  rw [context_sectionsFrom, Context.keywords_lookAll, classDocuments, List.flatMap_append,
    Context.lookAll_append]

/-- The default input is the one that the settings name, and it is there. -/
theorem defaultIndex_eq_ok {c : Config} {sources : List Source} {index : Nat}
    (h : defaultIndex c sources = .ok index) :
    index = c.defaultFile.toNat ∧ c.defaultFile.toNat < sources.length := by
  unfold defaultIndex at h
  split at h
  · cases h
  · split at h
    · cases h
    · next hlt =>
      cases h
      exact ⟨rfl, by omega⟩

theorem defaultIndex_of_lt {c : Config} {sources : List Source}
    (h : c.defaultFile.toNat < sources.length) :
    defaultIndex c sources = .ok c.defaultFile.toNat := by
  have hsome : sources.isEmpty = false :=
    List.isEmpty_eq_false_iff.mpr (List.ne_nil_of_length_pos (by omega))
  rw [defaultIndex, hsome, if_neg (by decide), if_neg (by omega)]

theorem defaultIndex_of_le {c : Config} {sources : List Source} (hsome : sources ≠ [])
    (h : sources.length ≤ c.defaultFile.toNat) :
    defaultIndex c sources = .error (.defaultOutOfRange c.defaultFile.toNat sources.length) := by
  rw [defaultIndex, List.isEmpty_eq_false_iff.mpr hsome, if_neg (by decide), if_pos h]

/-- A single input has no others. -/
theorem otherDocuments_single {c : Config} {sources : List Source} (hl : sources.length = 1)
    (hd : c.defaultFile.toNat < sources.length) :
    otherDocuments c.defaultFile.toNat 0 sources = [] := by
  obtain ⟨source, rfl⟩ := List.length_eq_one_iff.mp hl
  have h0 : c.defaultFile.toNat = 0 := by simpa using hd
  rw [otherDocuments_cons, h0, if_pos rfl]
  rfl

theorem text_classSheet (c : Config) {x y : Context} (h : x.Alike y) (sources : List Source) :
    (classSheet c x sources).map Prod.fst = (classSheet c y sources).map Prod.fst := by
  unfold classSheet
  cases defaultIndex c sources with
  | error e => rfl
  | ok default =>
    simp only [bind, Except.bind]
    split
    · cases documentAt sources default with
      | none => rfl
      | some document =>
        simp only [ofDocument_eq, Except.map]
        rw [h.keywords, h.answer]
    · simp only [Except.map]
      rw [text_responsiveSheet c h]

theorem context_classSheet {c : Config} {x y : Context} {sources : List Source} {text : Text}
    (h : classSheet c x sources = .ok (text, y)) :
    y = x.lookAll ((classDocuments c sources).flatMap (documentNames c x.keywords)) := by
  unfold classSheet at h
  cases hd : defaultIndex c sources with
  | error e => rw [hd] at h; cases h
  | ok default =>
    rw [hd] at h
    obtain ⟨rfl, hlt⟩ := defaultIndex_eq_ok hd
    simp only [bind, Except.bind] at h
    split at h
    · next hl =>
      cases hdoc : documentAt sources c.defaultFile.toNat with
      | none => rw [hdoc] at h; cases h
      | some document =>
        rw [hdoc] at h
        simp only [ofDocument_eq] at h
        cases h
        rw [classDocuments, hdoc, otherDocuments_single hl hlt]
        simp only [Option.toList_some, List.append_nil, List.flatMap_cons, List.flatMap_nil]
    · rw [Except.ok.injEq] at h
      rw [← context_responsiveSheet, h]

/-- Whether a class pass can be made does not depend on the context. -/
theorem classSheet_error {c : Config} {x : Context} {sources : List Source} {e : RenderError}
    (h : classSheet c x sources = .error e) (y : Context) : classSheet c y sources = .error e := by
  unfold classSheet at h ⊢
  cases hd : defaultIndex c sources with
  | error e' => rw [hd] at h; exact h
  | ok default =>
    rw [hd] at h
    simp only [bind, Except.bind] at h ⊢
    split at h
    · next hl =>
      rw [if_pos hl]
      cases hdoc : documentAt sources default with
      | none => rw [hdoc] at h; exact h
      | some document => rw [hdoc] at h; cases h
    · cases h

end DesignTokens
