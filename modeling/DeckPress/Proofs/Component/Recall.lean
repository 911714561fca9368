import DeckPress.Proofs.Component.Resolving
import DeckPress.Proofs.Disk.Path

/-!
# Resolving tags after others

Listings that were made for one tag are there for the next. All of them are of directories that were searched in,
each listed as it was written when it was first searched in. So a tag is found where it would be found with no
listings on record, but in directories as the record has them: the path of the import is that of the first way of
writing the directory. Where directories are listed alike however they are written, it does not matter what was
resolved before.
-/

namespace DeckPress.Component

/-- What an importer is asked for between two invalidations. -/
inductive Call where
  | resolve (consumer : Option Path) (tag : String)
  | apply (a : Artifact)

/-- The directory of the file for which the importer is asked. -/
def Call.consumer : Call → Option Path
  | resolve consumer _ => consumer
  | apply a => a.directory?

/-! ## The first way of writing a directory -/

theorem find?_cons_beq (w x : Path) (ws : List Path) :
    (w :: ws).find? (· == x) = if w == x then some w else ws.find? (· == x) := by
  rw [List.find?_cons]
  cases w == x <;> rfl

/-- A directory as it was first written. -/
def firstWritten (written : List Path) (dir : Path) : Path := (written.find? (· == dir)).getD dir

theorem firstWritten_beq (written : List Path) (dir : Path) : firstWritten written dir == dir := by
  unfold firstWritten
  cases hfind : written.find? (· == dir) with
  | none => exact Path.beq_iff.mpr rfl
  | some first =>
    have hfirst := List.find?_some hfind
    exact hfirst

theorem firstWritten_mem {written : List Path} {dir : Path} (h : dir ∈ written) :
    firstWritten written dir ∈ written := by
  unfold firstWritten
  cases hfind : written.find? (· == dir) with
  | none => exact h
  | some first => exact List.mem_of_find?_eq_some hfind

/-- What is written later than the directory itself does not matter. -/
theorem firstWritten_append_cons (written later : List Path) (dir : Path) :
    firstWritten (written ++ dir :: later) dir = firstWritten written dir := by
  have hself : (dir == dir) = true := Path.beq_iff.mpr rfl
  unfold firstWritten
  rw [List.find?_append, find?_cons_beq, if_pos hself]
  cases written.find? (· == dir) <;> rfl

namespace Importer

variable (i : Importer) (d : Disk)

/-! ## Calls -/

/-- The listings on record after a call. -/
def called (ls : Listings) : Call → Listings
  | .resolve consumer tag => ((i.resolve? d consumer tag).run ls).2
  | .apply a => ((i.apply d a).run ls).2

/-- The listings on record after calls in this order. -/
def after (calls : List Call) : Listings := calls.foldl (i.called d) []

/-- Each listing on record was made of the directory as it stands there. -/
def Recorded (dirs : Path → Prop) (ls : Listings) : Prop := ∀ e ∈ ls, dirs e.1 ∧ e.2 = i.list d e.1

/-- A computation that only puts listings of these directories on record, as they are written. -/
def Records (dirs : Path → Prop) {α : Type} (f : StateM Listings α) : Prop :=
  ∀ ls, i.Recorded d dirs ls → i.Recorded d dirs (f.run ls).2

variable {i d} {dirs : Path → Prop}

theorem Recorded.mono {dirs' : Path → Prop} (hdirs : ∀ dir, dirs dir → dirs' dir) {ls : Listings}
    (h : i.Recorded d dirs ls) : i.Recorded d dirs' ls :=
  fun e he => ⟨hdirs e.1 (h e he).1, (h e he).2⟩

theorem Records.pure {α : Type} (a : α) : i.Records d dirs (pure a) := fun _ h => h

theorem Records.bind {α β : Type} {f : StateM Listings α} {g : α → StateM Listings β} (hf : i.Records d dirs f)
    (hg : ∀ a, i.Records d dirs (g a)) : i.Records d dirs (f >>= g) :=
  fun ls h => hg _ _ (hf ls h)

theorem records_listing {dir : Path} (hdir : dirs dir) : i.Records d dirs (i.listing d dir) := by
  intro ls h
  cases hfind : ls.find? (·.1 == dir) with
  | some entry => rwa [i.listing_known d hfind]
  | none =>
    rw [i.listing_new d hfind]
    exact List.forall_mem_cons.mpr ⟨⟨hdir, rfl⟩, h⟩

theorem records_findFile? (name : String) {looked : List Path} (hdirs : ∀ dir ∈ looked, dirs dir) :
    i.Records d dirs (i.findFile? d name looked) := by
  induction looked with
  | nil => exact Records.pure _
  | cons dir looked ih =>
    obtain ⟨hdir, hrest⟩ := List.forall_mem_cons.mp hdirs
    refine (records_listing hdir).bind fun l => ?_
    split
    · exact Records.pure _
    · exact ih hrest

variable {consumer : Option Path}

theorem records_resolve? (hdirs : ∀ dir ∈ i.searchDirs consumer, dirs dir) (tag : String) :
    i.Records d dirs (i.resolve? d consumer tag) := by
  refine (records_findFile? _ hdirs).bind fun file => ?_
  split <;> exact Records.pure _

theorem records_resolveAll (hdirs : ∀ dir ∈ i.searchDirs consumer, dirs dir) (tags : List String) :
    i.Records d dirs (i.resolveAll d consumer tags) := by
  induction tags with
  | nil => exact Records.pure _
  | cons tag tags ih =>
    refine (records_resolve? hdirs tag).bind fun found => ih.bind fun ⟨resolved, left⟩ => ?_
    dsimp only
    split <;> exact Records.pure _

theorem records_apply {a : Artifact} (hdirs : ∀ dir ∈ i.searchDirs a.directory?, dirs dir) :
    i.Records d dirs (i.apply d a) := by
  intro ls h
  rw [apply_run]
  split
  · exact records_resolveAll hdirs (wantedTags a) ls h
  · exact h

/-- A call puts the directories on record that it searches in. -/
theorem Recorded.called {ls : Listings} (h : i.Recorded d dirs ls) {c : Call}
    (hdirs : ∀ dir ∈ i.searchDirs c.consumer, dirs dir) : i.Recorded d dirs (i.called d ls c) := by
  cases c with
  | resolve consumer tag => exact records_resolve? hdirs tag ls h
  | apply a => exact records_apply hdirs ls h

variable (i)

/-- The directories in which is searched for calls. -/
def Searched (calls : List Call) (dir : Path) : Prop := ∃ c ∈ calls, dir ∈ i.searchDirs c.consumer

variable {i}

/-- What is on record after calls are the directories that they search in, as they are written there. -/
theorem recorded_after (calls : List Call) : i.Recorded d (i.Searched calls) (i.after d calls) := by
  have hrun (rest : List Call) (hrest : ∀ c ∈ rest, c ∈ calls) {ls : Listings}
      (h : i.Recorded d (i.Searched calls) ls) : i.Recorded d (i.Searched calls) (rest.foldl (i.called d) ls) := by
    induction rest generalizing ls with
    | nil => exact h
    | cons c rest ih =>
      obtain ⟨hc, hrest⟩ := List.forall_mem_cons.mp hrest
      exact ih hrest (h.called fun dir hdir => ⟨c, hc, hdir⟩)
  exact hrun calls (fun _ h => h) fun e he => nomatch he

/-! ## What is found with listings on record -/

variable (i d)

/-- The file of a component in the first of the directories that has one, where each directory is listed as it was
first written. -/
def recalledFile? (written : List Path) (name : String) (dirs : List Path) : Option Path :=
  dirs.findSome? fun dir => (i.list d (firstWritten (written ++ dirs) dir)).lookup name

variable {i d}

/-- The listing of a directory is that of the directory as it was first written, and the next ones find it so. -/
theorem Recorded.listing {ls : Listings} (h : i.Recorded d dirs ls) {written : List Path}
    (hwritten : ∀ x, (ls.map (·.1)).find? (· == x) = written.find? (· == x)) (dir : Path) :
    ((i.listing d dir).run ls).1 = i.list d (firstWritten written dir) ∧
      ∀ x, (((i.listing d dir).run ls).2.map (·.1)).find? (· == x) = (written ++ [dir]).find? (· == x) := by
  have hsame {x : Path} (hx : dir == x) (ws : List Path) : ws.find? (· == x) = ws.find? (· == dir) := by
    have hc : dir.components = x.components := Path.beq_iff.mp hx
    congr 1
    funext w
    show (w.components == x.components) = (w.components == dir.components)
    rw [hc]
  have hfirst := hwritten dir
  rw [List.find?_map] at hfirst
  cases hfind : ls.find? (·.1 == dir) with
  | some entry =>
    rw [Function.comp_def, hfind, Option.map_some] at hfirst
    rw [i.listing_known d hfind]
    refine ⟨?_, fun x => ?_⟩
    · rw [firstWritten, ← hfirst, Option.getD_some]
      exact (h entry (List.mem_of_find?_eq_some hfind)).2
    · rw [hwritten, List.find?_append]
      by_cases hx : dir == x
      · rw [hsame hx, ← hfirst, Option.some_or]
      · rw [find?_cons_beq, if_neg hx, List.find?_nil, Option.or_none]
  | none =>
    rw [Function.comp_def, hfind, Option.map_none] at hfirst
    rw [i.listing_new d hfind]
    refine ⟨?_, fun x => ?_⟩
    · rw [firstWritten, ← hfirst, Option.getD_none]
    · rw [List.map_cons, List.find?_append, find?_cons_beq, find?_cons_beq]
      by_cases hx : dir == x
      · rw [if_pos hx, if_pos hx, hsame hx, ← hfirst, Option.none_or]
      · rw [if_neg hx, if_neg hx, hwritten, List.find?_nil, Option.or_none]

theorem Recorded.findFile? {ls : Listings} (h : i.Recorded d dirs ls) {written : List Path}
    (hwritten : ∀ x, (ls.map (·.1)).find? (· == x) = written.find? (· == x)) (name : String) {looked : List Path}
    (hdirs : ∀ dir ∈ looked, dirs dir) :
    ((i.findFile? d name looked).run ls).1 = i.recalledFile? d written name looked := by
  induction looked generalizing ls written with
  | nil => rfl
  | cons dir looked ih =>
    obtain ⟨hdir, hrest⟩ := List.forall_mem_cons.mp hdirs
    obtain ⟨hlisting, hlater⟩ := h.listing hwritten dir
    rw [findFile?_cons_run, hlisting, recalledFile?, List.findSome?_cons, firstWritten_append_cons]
    cases (i.list d (firstWritten written dir)).lookup name with
    | some file => rfl
    | none =>
      show ((i.findFile? d name looked).run ((i.listing d dir).run ls).2).1 = _
      rw [ih (records_listing hdir ls h) hlater hrest, recalledFile?, List.append_assoc, List.singleton_append]

/-- A tag stands for what is found in the directories as the record has them. -/
theorem Recorded.found_eq {ls : Listings} (h : i.Recorded d dirs ls) (consumer : Option Path) (tag : String) :
    i.found d consumer ls tag =
      i.resolutionOf tag (i.recalledFile? d (ls.map (·.1)) (pascalCase tag) (i.searchDirs consumer)) := by
  have hall : i.Recorded d (fun _ => True) ls := h.mono fun _ _ => trivial
  unfold found
  rw [resolve?_run, hall.findFile? (fun _ => rfl) (pascalCase tag) fun _ _ => trivial]

/-- Where directories are listed alike it does not matter how they were written. -/
theorem ListedAlike.recalledFile?_eq (halike : i.ListedAlike d dirs) {written looked : List Path}
    (hwritten : ∀ dir ∈ written, dirs dir) (hlooked : ∀ dir ∈ looked, dirs dir) (name : String) :
    i.recalledFile? d written name looked = i.fileIn? d name looked := by
  refine findSome?_congr fun dir hdir => ?_
  have hfirst : firstWritten (written ++ looked) dir ∈ written ++ looked :=
    firstWritten_mem (List.mem_append_right written hdir)
  have hdirs : dirs (firstWritten (written ++ looked) dir) :=
    (List.mem_append.mp hfirst).elim (hwritten _) (hlooked _)
  rw [halike _ dir hdirs (hlooked dir hdir) (firstWritten_beq _ dir)]

/-- Directories that are each written in one way are listed alike. -/
theorem ListedAlike.of_written_alike (h : ∀ a b, dirs a → dirs b → a == b → a = b) : i.ListedAlike d dirs :=
  fun a b ha hb hab => by rw [h a b ha hb hab]

/-! ## Other resolvers -/

variable (i) (rs : List Resolver)

theorem findFile?_resolvers (name : String) (dirs : List Path) :
    ({ i with resolvers := rs }).findFile? d name dirs = i.findFile? d name dirs := by
  induction dirs with
  | nil => rfl
  | cons dir dirs ih =>
    rw [findFile?, findFile?, ih]
    rfl

/-- The listings on record do not depend on the resolvers. -/
theorem resolve?_resolvers (consumer : Option Path) (tag : String) (ls : Listings) :
    ((({ i with resolvers := rs }).resolve? d consumer tag).run ls).2 = ((i.resolve? d consumer tag).run ls).2 := by
  rw [resolve?_run, resolve?_run, findFile?_resolvers]
  rfl

theorem resolveAll_resolvers (consumer : Option Path) (tags : List String) (ls : Listings) :
    ((({ i with resolvers := rs }).resolveAll d consumer tags).run ls).2 =
      ((i.resolveAll d consumer tags).run ls).2 := by
  induction tags generalizing ls with
  | nil => rfl
  | cons tag tags ih => rw [resolveAll_cons_listings, resolveAll_cons_listings, resolve?_resolvers, ih]

theorem called_resolvers (ls : Listings) (c : Call) :
    ({ i with resolvers := rs }).called d ls c = i.called d ls c := by
  cases c with
  | resolve consumer tag => exact i.resolve?_resolvers rs consumer tag ls
  | apply a =>
    show ((({ i with resolvers := rs }).apply d a).run ls).2 = ((i.apply d a).run ls).2
    rw [apply_run, apply_run]
    show (if i.appliesTo a then _ else _ : Artifact × Listings).2 = _
    split
    · exact i.resolveAll_resolvers rs a.directory? (wantedTags a) ls
    · rfl

theorem after_resolvers (calls : List Call) : ({ i with resolvers := rs }).after d calls = i.after d calls := by
  have hcalled : ({ i with resolvers := rs }).called d = i.called d :=
    funext fun ls => funext fun c => i.called_resolvers rs ls c
  unfold after
  rw [hcalled]

/-- The resolvers behind one that knows the tag are not asked. -/
theorem resolutionOf_resolvers {before behind : List Resolver} {r : Resolver} {tag : String}
    (hresolvers : i.resolvers = before ++ r :: behind) (hr : r tag ≠ none) (others : List Resolver)
    (file : Option Path) :
    ({ i with resolvers := before ++ r :: others }).resolutionOf tag file = i.resolutionOf tag file := by
  cases file with
  | some file => rfl
  | none =>
    obtain ⟨resolution, hsome⟩ := Option.ne_none_iff_exists'.mp hr
    show (before ++ r :: others).findSome? (· tag) = i.resolvers.findSome? (· tag)
    rw [hresolvers, List.findSome?_append, List.findSome?_append, List.findSome?_cons, List.findSome?_cons, hsome]

/-! ## The order of directories -/

/-- The relative directories below the directory of the consumer. -/
def ownDirs (dir : Path) : List Path := (i.options.dirs.filter Path.isRelative).map fun x => dir / x.text

/-- The directories of the consumer's own come before all others. -/
def OwnFirst (dir : Path) : Prop :=
  (i.ownDirs dir).map Path.components <+: (i.searchDirs (some dir)).map Path.components

/-- No relative directory stands behind an absolute one. -/
def RelativeFirst : Prop := i.options.dirs.Pairwise fun x y => y.isRelative → x.isRelative

theorem filter_front {α : Type} {p : α → Bool} {l : List α} (h : l.Pairwise fun x y => p y → p x) :
    l.filter p <+: l := by
  induction l with
  | nil => exact List.prefix_rfl
  | cons x l ih =>
    obtain ⟨hx, hl⟩ := List.pairwise_cons.mp h
    by_cases hp : p x
    · rw [List.filter_cons_of_pos hp, List.cons_prefix_cons]
      exact ⟨rfl, ih hl⟩
    · have hnone : l.filter p = [] := List.filter_eq_nil_iff.mpr fun y hy hpy => hp (hx y hy hpy)
      rw [List.filter_cons_of_neg hp, hnone]
      exact List.nil_prefix

variable {i}

/-- The consumer's own directories are searched first, except in the directory of the deck, where all directories
have the order of the options. -/
theorem ownFirst {dir : Path} (h : dir == i.deckRoot → i.RelativeFirst) : i.OwnFirst dir := by
  unfold OwnFirst searchDirs
  by_cases hroot : dir == i.deckRoot
  · have hrelative : (i.options.dirs.filter Path.isRelative).map (fun x => (dir / x.text).components) =
        (i.options.dirs.filter Path.isRelative).map fun x =>
          (if x.isRelative then i.deckRoot / x.text else x).components := by
      refine List.map_congr_left fun x hx => ?_
      have hx : x.isRelative := (List.mem_filter.mp hx).2
      have hhead : x.chars.head? ≠ some '/' := by simpa [Path.isRelative, Path.isAbsolute] using hx
      rw [if_pos hx]
      exact Path.beq_iff.mp (Path.beq_join hroot hhead)
    dsimp only
    rw [if_pos hroot, List.nil_append, ownDirs, List.map_map, List.map_map]
    show (i.options.dirs.filter Path.isRelative).map (fun x => (dir / x.text).components) <+: _
    rw [hrelative]
    exact (filter_front (h hroot)).map _
  · dsimp only
    rw [if_neg hroot, List.map_append]
    exact List.prefix_append _ _

/--
**A tag stands for what is first found in the directories as they were first written.**

So it stands for what it would stand for with no listings on record, if the directories that are equal as paths are
listed alike. The resolvers behind the first that knows the tag change nothing, whatever was asked before. The
directories below that of the file come first; below the directory of the deck, if no relative directory stands
behind an absolute one.
-/
theorem found_after_calls (i : Importer) (d : Disk) (calls : List Call) (consumer : Option Path) (tag : String) :
    (∃ written : List Path, (∀ dir ∈ written, i.Searched calls dir) ∧
      i.found d consumer (i.after d calls) tag =
        i.resolutionOf tag (i.recalledFile? d written (pascalCase tag) (i.searchDirs consumer))) ∧
    (i.ListedAlike d (fun dir => i.Searched calls dir ∨ dir ∈ i.searchDirs consumer) →
      i.found d consumer (i.after d calls) tag =
        i.resolutionOf tag (i.fileIn? d (pascalCase tag) (i.searchDirs consumer))) ∧
    (∀ before r behind others, i.resolvers = before ++ r :: behind → r tag ≠ none →
      ({ i with resolvers := before ++ r :: others }).found d consumer
          (({ i with resolvers := before ++ r :: others }).after d calls) tag =
        i.found d consumer (i.after d calls) tag) ∧
    ∀ dir, consumer = some dir → (dir == i.deckRoot → i.RelativeFirst) → i.OwnFirst dir := by
  have hrecorded := recorded_after (i := i) (d := d) calls
  have hwritten : ∀ dir ∈ (i.after d calls).map (·.1), i.Searched calls dir := by
    intro dir hdir
    obtain ⟨e, he, rfl⟩ := List.mem_map.mp hdir
    exact (hrecorded e he).1
  refine ⟨⟨_, hwritten, hrecorded.found_eq consumer tag⟩, fun halike => ?_,
    fun before r behind others hresolvers hr => ?_,
    fun dir _ => ownFirst⟩
  · rw [hrecorded.found_eq consumer tag,
      halike.recalledFile?_eq (fun dir hdir => .inl (hwritten dir hdir)) fun dir hdir => .inr hdir]
  · unfold found
    rw [after_resolvers, resolve?_run, resolve?_run, findFile?_resolvers]
    exact i.resolutionOf_resolvers hresolvers hr others _

/-! ## Two ways of writing a directory, and the directory of the deck -/

/-- A component beside the files in `/widgets`, with an importer that finds it there in two ways. -/
def fooDisk : Disk where
  entries := [(["widgets"], .directory), (["widgets", "parts"], .directory),
    (["widgets", "parts", "Foo.vue"], .file "".toUTF8)]

def fooImporter (dirs : List Path) : Importer where
  options := { extensions := ["vue"], dirs }
  deckRoot := ⟨"/"⟩
  included := ["vue"]
  resolvers := []

/-- A component of the deck and one of the theme. -/
def cardDisk : Disk where
  entries := [(["deck"], .directory), (["deck", "components"], .directory),
    (["deck", "components", "Card.vue"], .file "".toUTF8), (["theme"], .directory),
    (["theme", "Card.vue"], .file "".toUTF8)]

def cardImporter : Importer where
  options := { extensions := ["vue"], dirs := [⟨"/theme"⟩, ⟨"components"⟩] }
  deckRoot := ⟨"/deck"⟩
  included := ["vue"]
  resolvers := []

def widgetCalls : List Call := [.resolve none "Bar", .resolve (some ⟨"/widgets"⟩) "foo"]

/-- The component was found before, under another spelling and for the same file. -/
theorem found_after_calls_widgets :
    (fooImporter [⟨"parts"⟩]).found fooDisk (some ⟨"/widgets"⟩)
        ((fooImporter [⟨"parts"⟩]).after fooDisk widgetCalls)
        "Foo" =
      some ⟨"Foo", "/widgets/parts/Foo.vue"⟩ := by
  have hplaces (c : Option Path) (hc : c = none ∨ c = some ⟨"/widgets"⟩) {dir : Path}
      (hdir : dir ∈ (fooImporter [⟨"parts"⟩]).searchDirs c) :
      dir = ⟨"/parts"⟩ ∨ dir = ⟨"/widgets/parts"⟩ := by
    have hbelow : ((fooImporter [⟨"parts"⟩]).searchDirs none).map Path.text = ["/parts"] := by decide
    have hbeside : ((fooImporter [⟨"parts"⟩]).searchDirs (some ⟨"/widgets"⟩)).map Path.text =
        ["/widgets/parts", "/parts"] := by decide
    have htext : dir.text = "/parts" ∨ dir.text = "/widgets/parts" := by
      have hmem := List.mem_map_of_mem (f := Path.text) hdir
      rcases hc with rfl | rfl
      · rw [hbelow] at hmem
        exact .inl (List.mem_singleton.mp hmem)
      · rw [hbeside, List.mem_pair] at hmem
        exact hmem.symm
    exact htext.imp Path.eq_of_text Path.eq_of_text
  have halike := (found_after_calls (fooImporter [⟨"parts"⟩]) fooDisk widgetCalls (some ⟨"/widgets"⟩) "Foo").2.1
  rw [halike]
  · decide +kernel
  · have hplace (dir : Path) (hdir : (fooImporter [⟨"parts"⟩]).Searched widgetCalls dir ∨
        dir ∈ (fooImporter [⟨"parts"⟩]).searchDirs (some ⟨"/widgets"⟩)) :
        dir = ⟨"/parts"⟩ ∨ dir = ⟨"/widgets/parts"⟩ := by
      rcases hdir with ⟨c, hc, hdir⟩ | hdir
      · rcases List.mem_pair.mp hc with rfl | rfl
        · exact hplaces none (.inl rfl) hdir
        · exact hplaces _ (.inr rfl) hdir
      · exact hplaces _ (.inr rfl) hdir
    refine ListedAlike.of_written_alike fun a b ha hb hab => ?_
    have hother : ((⟨"/parts"⟩ : Path) == ⟨"/widgets/parts"⟩) = false ∧
        ((⟨"/widgets/parts"⟩ : Path) == ⟨"/parts"⟩) = false := by decide
    rcases hplace a ha with rfl | rfl <;> rcases hplace b hb with rfl | rfl
    · rfl
    · exact absurd hab (Bool.eq_false_iff.mp hother.1)
    · exact absurd hab (Bool.eq_false_iff.mp hother.2)
    · rfl

/-- A tag is found under another path after it was found for another file, and in the directory of the deck a
directory of its own may come last. -/
theorem found_after_other_file :
    ((fooImporter [⟨"parts"⟩, ⟨"./widgets/parts"⟩]).found fooDisk (some ⟨"/widgets"⟩)
          ((fooImporter [⟨"parts"⟩, ⟨"./widgets/parts"⟩]).after fooDisk [.resolve none "Foo"]) "Foo" =
        some ⟨"Foo", "/./widgets/parts/Foo.vue"⟩ ∧
      (fooImporter [⟨"parts"⟩, ⟨"./widgets/parts"⟩]).found fooDisk (some ⟨"/widgets"⟩) [] "Foo" =
        some ⟨"Foo", "/widgets/parts/Foo.vue"⟩) ∧
    (cardImporter.found cardDisk (some ⟨"/deck"⟩) [] "Card" = some ⟨"Card", "/theme/Card.vue"⟩ ∧
      (cardImporter.fileIn? cardDisk "Card" (cardImporter.ownDirs ⟨"/deck"⟩)).map Path.text =
        some "/deck/components/Card.vue" ∧
      ¬ cardImporter.OwnFirst ⟨"/deck"⟩) := by
  refine ⟨⟨by decide +kernel, by decide +kernel⟩, by decide +kernel, by decide +kernel, ?_⟩
  unfold OwnFirst
  decide +kernel

end Importer

end DeckPress.Component
