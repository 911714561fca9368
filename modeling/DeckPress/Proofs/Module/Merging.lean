import DeckPress.Proofs.Deck.Detached
import DeckPress.Proofs.Sorted
import DeckPress.Presentation

/-!
# Slide files, merged and read again

The text of a slide file is served under its own front matter with that of the slide that refers to it, and
whoever asks for it takes the front matter off again. What was merged comes back, but for three slips. If
there is nothing to merge, the body is served as it is, and may begin with what is then taken for front matter.
Else the front matter is put together from its lines, which costs a text at its end the last line feed; and
the body is put together from its lines, which costs a line that ends with two carriage returns the second one.
-/

namespace DeckPress

open Text

/-- What is relied on where fields are written: their text ends its last line, has no line that would close
front matter, and is read as the same fields. -/
structure Yaml.Faithful (fields : Fields) : Prop where
  ends : (render fields).toList.getLast? = some '\n'
  unclosed : ∀ l ∈ lines (render fields).toList, Deck.closesFrontMatter l = false
  reads : toJson? (render fields).toList = some (.obj fields)

namespace Deck

/-- A file is read as these fields and as the lines of this body. An empty body may come back as an empty
line. -/
def ReadsAs (text : String) (fields : Fields) (body : String) : Prop :=
  ∃ found, splitFrontMatter text = .ok (fields, found) ∧
    (lines found.toList = lines body.toList ∨ body = "" ∧ lines found.toList = [[]])

/-- The first line of a text closes front matter, and so would open it at the start of a file. -/
def BeginsClosed (text : String) : Prop :=
  ∃ first rest, lines text.toList = first :: rest ∧ closesFrontMatter first = true

/-- The text of fields means the same without the end of its last line. -/
def EndsFreely (fields : Fields) : Prop :=
  Yaml.toJson? (joinLines (lines (Yaml.render fields).toList)) = Yaml.toJson? (Yaml.render fields).toList

/-! ## Reading behind front matter -/

/-- The body behind front matter: its lines put together again, with the end of the last one if the file ends
with it. -/
theorem splitFrontMatter_behind {text : String} {first closing : Line} {front rest : List Line}
    (hlines : lines text.toList = first :: (front ++ closing :: rest)) (hfirst : closesFrontMatter first = true)
    (hfront : ∀ l ∈ front, closesFrontMatter l = false) (hclosing : closesFrontMatter closing = true) :
    splitFrontMatter text = ((readFields (joinLines front)).mapError .frontMatter).map fun fields =>
      (fields, String.ofList (joinLines rest ++ if text.toList.getLast? = some '\n' then ['\n'] else [])) := by
  have hend : (front ++ closing :: rest).findIdx? closesFrontMatter = some front.length :=
    findIdx?_append_cons hfront hclosing rest
  have hdrop : (front ++ closing :: rest).drop (front.length + 1) = rest := by simp
  unfold splitFrontMatter
  dsimp only
  rw [hlines]
  dsimp only
  rw [if_pos hfirst, hend]
  dsimp only
  rw [List.take_left, hdrop]
  cases readFields (joinLines front) with
  | error fault => rfl
  | ok fields =>
    by_cases hfeed : text.toList.getLast? = some '\n'
    · simp only [hfeed, if_true]
      rfl
    · simp only [hfeed, if_false, List.append_nil]
      rfl

/-- A body that begins with a mark of front matter is not read as it is: its first lines are gone. -/
theorem readsAs_bare_iff {body : String} : ReadsAs body [] body ↔ ¬ BeginsClosed body := by
  constructor
  · rintro ⟨found, hsplit, hlines⟩ ⟨first, ls, hbody, hfirst⟩
    cases cut_of_splitFrontMatter hsplit with
    | bare _ hopen =>
      rw [hopen first ls hbody] at hfirst
      cases hfirst
    | behind _ closing front rest ending hcut _ _ _ hending hfound =>
      -- The marks are gone from what is found, so it cannot have as many lines as the body.
      rcases hlines with hsame | ⟨rfl, -⟩
      · have hfeed : ∀ l ∈ rest, '\n' ∉ l := fun l hl =>
          noFeed_of_mem_lines l (by rw [hcut]; simp [hl])
        have hle := length_lines_rejoined_le hfeed hending
        rw [← hfound, hsame, hcut] at hle
        simp only [List.length_cons, List.length_append] at hle
        omega
      · cases hbody
  · intro hopen
    refine ⟨body, ?_, .inl rfl⟩
    cases hlines : lines body.toList with
    | nil =>
      unfold splitFrontMatter
      dsimp only
      rw [hlines]
    | cons first rest =>
      refine splitFrontMatter_body hlines ?_
      rw [Bool.eq_false_iff]
      exact fun hfirst => hopen ⟨first, rest, hlines, hfirst⟩

/-- The text of fields has a colon. -/
theorem colon_mem_render {fields : Fields} (h : fields ≠ []) : ':' ∈ (Yaml.render fields).toList := by
  obtain ⟨⟨key, value⟩, rest, rfl⟩ := List.exists_cons_of_ne_nil h
  rw [Yaml.render, String.toList_ofList, Yaml.renderFields]
  refine List.mem_append_left _ (List.mem_append_right _ ?_)
  split
  · exact List.mem_append_right _ List.mem_cons_self
  · exact List.mem_append_right _ List.mem_cons_self

theorem readFields_eq_ok_iff {raw : List Char} {fields : Fields} (hcolon : ':' ∈ raw) (hsome : fields ≠ []) :
    readFields raw = .ok fields ↔ Yaml.toJson? raw = some (.obj fields) := by
  have hblank : isBlank raw = false := by
    rw [Bool.eq_false_iff]
    intro hall
    exact absurd (List.all_eq_true.mp hall ':' hcolon) (by decide)
  unfold readFields
  rw [if_neg (by simp [hblank])]
  cases Yaml.toJson? raw with
  | none => simp
  | some value =>
    cases value with
    | obj found => simp
    | null => simp [hsome.symm]
    | _ => simp

/-! ## Reading what was written -/

theorem lines_withFrontMatter {fields : Fields} (hsome : fields ≠ []) (hwritten : Yaml.Faithful fields)
    (body : String) :
    lines (withFrontMatter fields body).toList =
      fieldsMark :: (lines (Yaml.render fields).toList ++ fieldsMark :: lines body.toList) := by
  obtain ⟨front, hfront⟩ := List.getLast?_eq_some_iff.mp hwritten.ends
  have hmark : IsLine fieldsMark := ⟨by decide, by decide⟩
  have hempty : fields.isEmpty = false := by simpa using hsome
  have htext : (withFrontMatter fields body).toList =
      fieldsMark ++ '\n' :: (front ++ '\n' :: (fieldsMark ++ '\n' :: body.toList)) := by
    unfold withFrontMatter
    rw [if_neg (by simp [hempty])]
    simp only [String.toList_append, hfront, List.append_assoc]
    rfl
  rw [htext, lines_line hmark, lines_behind, lines_line hmark, hfront, lines_behind]
  simp [lines]

theorem getLast?_withFrontMatter {fields : Fields} (hsome : fields ≠ []) {body : String} :
    (withFrontMatter fields body).toList.getLast? = (body.toList.getLast?).or (some '\n') := by
  have hempty : fields.isEmpty = false := by simpa using hsome
  unfold withFrontMatter
  rw [if_neg (by simp [hempty]), String.toList_append, List.getLast?_append, String.toList_append,
    List.getLast?_append]
  rfl

/-- Front matter that was put in front of a body is read back exactly if its text may lose the end of its last
line, and the body exactly if no line of it loses a second carriage return. -/
theorem readsAs_withFrontMatter_iff {fields : Fields} (hsome : fields ≠ []) (hwritten : Yaml.Faithful fields)
    (body : String) :
    ReadsAs (withFrontMatter fields body) fields body ↔
      EndsFreely fields ∧ ¬ ['\r', '\r', '\n'] <:+: body.toList := by
  have hread : readFields (joinLines (lines (Yaml.render fields).toList)) = .ok fields ↔ EndsFreely fields := by
    obtain ⟨l, hl, hcolon⟩ := exists_line_of_mem (colon_mem_render hsome) (by decide) (by decide)
    rw [readFields_eq_ok_iff (mem_joinLines hl hcolon) hsome, EndsFreely, hwritten.reads]
  have hsplit := splitFrontMatter_behind (lines_withFrontMatter hsome hwritten body) rfl hwritten.unclosed rfl
  -- The body is put together from its own lines alone: what the fields are does not matter for it.
  generalize hfound : String.ofList (joinLines (lines body.toList) ++ _) = found at hsplit
  have hbody : (lines found.toList = lines body.toList ∨ body = "" ∧ lines found.toList = [[]]) ↔
      ¬ ['\r', '\r', '\n'] <:+: body.toList := by
    rw [← hfound, String.toList_ofList, getLast?_withFrontMatter hsome]
    by_cases hempty : body = ""
    · subst hempty
      exact iff_of_true (.inr ⟨rfl, rfl⟩) (by decide)
    · have hchars : body.toList ≠ [] := mt String.toList_eq_nil_iff.mp hempty
      have hlast : body.toList.getLast?.or (some '\n') = body.toList.getLast? := by
        rw [List.getLast?_eq_some_getLast hchars, Option.some_or]
      rw [hlast, or_iff_left (fun h => hempty h.1), lines_rejoined hchars]
  rw [← hread, ← hbody]
  unfold ReadsAs
  rw [hsplit]
  cases readFields (joinLines (lines (Yaml.render fields).toList)) with
  | error fault => simp [Except.mapError, Except.map]
  | ok fs => simp [Except.mapError, Except.map]

end Deck

namespace PresentedSlide

/-! ## The merge -/

/-- A field that wins, or else one that was there. -/
theorem get?_override {fields winning : Fields} (hkeys : (winning.map Prod.fst).Nodup) (key : String) :
    (fields.override winning).get? key = (winning.get? key).or (fields.get? key) := by
  induction winning generalizing fields with
  | nil => rfl
  | cons field winning ih =>
    obtain ⟨name, value⟩ := field
    obtain ⟨hname, hkeys⟩ := List.nodup_cons.mp hkeys
    have hstep : fields.override ((name, value) :: winning) = (fields.insert name value).override winning := rfl
    rw [hstep, ih hkeys, Fields.get?, Fields.get?, Fields.get?, Fields.insert, lookup_insertSorted,
      lookup_cons_eq]
    by_cases hkey : key = name
    · subst hkey
      have hnone : winning.lookup key = none := by
        rw [Option.eq_none_iff_forall_ne_some]
        exact fun v hv => hname ((mem_keys_iff_lookup winning key).mpr ⟨v, hv⟩)
      rw [if_pos rfl, if_pos rfl, hnone]
      rfl
    · rw [if_neg hkey, if_neg hkey]
      rfl

theorem get?_filter_ne (fields : Fields) (name key : String) :
    Fields.get? (fields.filter (·.1 ≠ name)) key = if key = name then none else fields.get? key := by
  induction fields with
  | nil => simp [Fields.get?]
  | cons field fields ih =>
    obtain ⟨k, v⟩ := field
    rw [Fields.get?] at ih ⊢
    rw [Fields.get?, lookup_cons_eq]
    by_cases hk : k = name
    · rw [List.filter_cons_of_neg (by simp [hk]), ih]
      by_cases hkey : key = name
      · simp [hkey]
      · rw [if_neg hkey, if_neg hkey, if_neg (by rw [hk]; exact hkey)]
        rfl
    · rw [List.filter_cons_of_pos (by simp [hk]), lookup_cons_eq, ih]
      by_cases hkey : key = k
      · rw [if_pos hkey, if_neg (by rw [hkey]; exact hk), if_pos hkey]
      · rw [if_neg hkey, if_neg hkey]
        rfl

theorem get?_mergedFields {fields own : Fields} (hkeys : (own.map Prod.fst).Nodup) (key : String) :
    (mergedFields fields own).get? key =
      if key = "src" then fields.get? key else (own.get? key).or (fields.get? key) := by
  have hfiltered : ((own.filter (·.1 ≠ "src")).map Prod.fst).Nodup :=
    hkeys.sublist (List.filter_sublist.map Prod.fst)
  rw [mergedFields, get?_override hfiltered, get?_filter_ne]
  split <;> rfl

/-- The text of a slide file is merged once its front matter is taken off. -/
theorem exists_merge {s : PresentedSlide} {file : SlideFile} {content module text : String}
    (hfile : s.file = some file) (hcontent : file.content = some content)
    (hmarkdown : s.markdown module = .ok text) :
    ∃ fields body, Deck.splitFrontMatter content = .ok (fields, body) ∧
      text = Deck.withFrontMatter (mergedFields fields s.source.frontMatter) body := by
  unfold markdown at hmarkdown
  rw [hfile] at hmarkdown
  dsimp only at hmarkdown
  rw [hcontent] at hmarkdown
  dsimp only at hmarkdown
  cases hsplit : Deck.splitFrontMatter content with
  | error fault =>
    rw [hsplit] at hmarkdown
    cases hmarkdown
  | ok parts =>
    rw [hsplit] at hmarkdown
    cases hmarkdown
    exact ⟨parts.1, parts.2, rfl, rfl⟩

/-- The fields of a slide file are overridden by those of the slide, apart from the reference to the file. The
markdown that is served is read as these fields and the body of the file exactly in two cases: there are no
fields, and the body does not begin like front matter; or there are some, their text may lose the end of its
last line, and no line of the body has a second carriage return to lose. -/
theorem merge_read_back_iff {s : PresentedSlide} {file : SlideFile} {content module text : String}
    (hfile : s.file = some file) (hcontent : file.content = some content)
    (hmarkdown : s.markdown module = .ok text) :
    ∃ fields body merged, Deck.splitFrontMatter content = .ok (fields, body) ∧
      merged = mergedFields fields s.source.frontMatter ∧
      ((s.source.frontMatter.map Prod.fst).Nodup → ∀ key, merged.get? key =
        if key = "src" then fields.get? key else (s.source.frontMatter.get? key).or (fields.get? key)) ∧
      ((merged ≠ [] → Yaml.Faithful merged) →
        (Deck.ReadsAs text merged body ↔
          merged = [] ∧ ¬ Deck.BeginsClosed body ∨
          merged ≠ [] ∧ Deck.EndsFreely merged ∧ ¬ ['\r', '\r', '\n'] <:+: body.toList)) := by
  obtain ⟨fields, body, hsplit, rfl⟩ := exists_merge hfile hcontent hmarkdown
  refine ⟨fields, body, _, hsplit, rfl, get?_mergedFields, fun hwritten => ?_⟩
  generalize mergedFields fields s.source.frontMatter = merged at hwritten
  by_cases hsome : merged = []
  · subst hsome
    have hbare : Deck.withFrontMatter [] body = body := rfl
    rw [hbare, Deck.readsAs_bare_iff]
    simp
  · rw [Deck.readsAs_withFrontMatter_iff hsome (hwritten hsome)]
    simp [hsome]

/-- A slide that refers to a file with this text, and has one field more. -/
def importing (own : Fields) (content : String) : PresentedSlide where
  source := ⟨0, 0, 3, "", ("src", .str "./part.md") :: own, ""⟩
  file := some ⟨⟨"/deck/part.md"⟩, some content⟩

/-- A file with a title. -/
def titledPart : String := "---\ntitle: Part\n---\n\n# Hi\n"

/-- The title with the layout. -/
def centeredFields : Fields := [("layout", .str "center"), ("title", .str "Part")]

/-- Whether these are that layout and that title. -/
def isCentered : Fields → Bool
  | [("layout", .str layout), ("title", .str title)] => layout = "center" && title = "Part"
  | _ => false

theorem eq_of_isCentered {fields : Fields} (h : isCentered fields = true) : fields = centeredFields := by
  unfold isCentered at h
  split at h
  · simp_all [centeredFields]
  · cases h

theorem toJson?_of_isCentered {raw : List Char}
    (h : (Yaml.toJson? raw).any (fun | .obj fields => isCentered fields | _ => false) = true) :
    Yaml.toJson? raw = some (.obj centeredFields) := by
  cases hvalue : Yaml.toJson? raw with
  | none =>
    rw [hvalue] at h
    cases h
  | some value =>
    rw [hvalue] at h
    cases value with
    | obj fields => rw [eq_of_isCentered h]
    | _ => cases h

theorem faithful_centeredFields : Yaml.Faithful centeredFields where
  ends := by decide
  unclosed := by decide
  reads := toJson?_of_isCentered (by decide +kernel)

theorem endsFreely_centeredFields : Deck.EndsFreely centeredFields :=
  (toJson?_of_isCentered (by decide +kernel)).trans faithful_centeredFields.reads.symm

/-- The file with the layout that the slide adds. -/
def centeredPart : PresentedSlide := importing [("layout", .str "center")] titledPart

theorem merge_read_back_iff_centered :
    ∃ text, centeredPart.markdown "/@slidev/slide/1.md" = .ok text ∧
      Deck.ReadsAs text centeredFields "\n# Hi\n" := by
  have hmarkdown : (centeredPart.markdown "/@slidev/slide/1.md").isOk = true := by decide +kernel
  have hparts : (Deck.splitFrontMatter titledPart).toOption.any (fun parts =>
      isCentered (mergedFields parts.1 centeredPart.source.frontMatter) ∧ parts.2 = "\n# Hi\n") = true := by
    decide +kernel
  cases htext : centeredPart.markdown "/@slidev/slide/1.md" with
  | error e =>
    rw [htext] at hmarkdown
    cases hmarkdown
  | ok text =>
    obtain ⟨fields, body, merged, hsplit, hmerged, -, hiff⟩ := merge_read_back_iff rfl rfl htext
    rw [hsplit] at hparts
    obtain ⟨hcentered, hbody⟩ := of_decide_eq_true hparts
    replace hcentered : merged = centeredFields := hmerged.trans (eq_of_isCentered hcentered)
    replace hbody : body = "\n# Hi\n" := hbody
    subst hcentered hbody
    have hreturns : ¬ ['\r', '\r', '\n'] <:+: "\n# Hi\n".toList := by decide +kernel
    exact ⟨text, rfl, (hiff fun _ => faithful_centeredFields).mpr
      (.inr ⟨List.cons_ne_nil _ _, endsFreely_centeredFields, hreturns⟩)⟩

/-- A file with empty front matter, behind which a title stands as if in front matter. -/
def markedPart : String := "---\n---\n" ++ titledPart

/-- The body is merged with nothing, and then taken for a file with a title. -/
theorem title_read_from_body :
    Deck.splitFrontMatter markedPart = .ok ([], titledPart) ∧
      mergedFields [] (importing [] markedPart).source.frontMatter = [] ∧
      (importing [] markedPart).markdown "/@slidev/slide/1.md" = .ok titledPart ∧
      ¬ Deck.ReadsAs titledPart [] titledPart := by
  have hread : (Deck.splitFrontMatter markedPart).toOption.any (fun parts =>
      parts.1.isEmpty ∧ parts.2 = titledPart) = true := by
    decide
  have hsplit : Deck.splitFrontMatter markedPart = .ok ([], titledPart) := by
    cases hparts : Deck.splitFrontMatter markedPart with
    | error fault =>
      rw [hparts] at hread
      cases hread
    | ok parts =>
      rw [hparts] at hread
      obtain ⟨hfields, hbody⟩ := of_decide_eq_true hread
      rw [← List.isEmpty_iff.mp hfields, ← hbody]
  have hmarkdown : (importing [] markedPart).markdown "/@slidev/slide/1.md" = .ok titledPart := by
    unfold markdown importing
    dsimp only
    rw [hsplit]
    rfl
  have hbegins : Deck.BeginsClosed titledPart := ⟨_, _, rfl, rfl⟩
  exact ⟨hsplit, rfl, hmarkdown, fun hreads => Deck.readsAs_bare_iff.mp hreads hbegins⟩

end PresentedSlide

end DeckPress
