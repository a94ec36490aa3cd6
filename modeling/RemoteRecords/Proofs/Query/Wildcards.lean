import Mathlib.Data.List.TakeWhile
import RemoteRecords.Proofs.Letters
import RemoteRecords.Proofs.Pairing
import RemoteRecords.Proofs.Schema.Identifier
import RemoteRecords.Query.Template

/-! Wildcards: where they stand in a template, and what stands there once they are replaced. -/

namespace RemoteRecords

namespace Template

/-- What stands ahead of the star of a wildcard: its segments, each with a point behind it. -/
def pathChars (segments : List String) : List Char :=
  segments.flatMap fun segment => segment.toList ++ ['.']

/-- A text is a path of identifiers, each with a point behind it. -/
def IsPath (text : List Char) : Prop :=
  ∃ segments : List String, (∀ segment ∈ segments, Identifier segment) ∧ text = pathChars segments

/-- A wildcard of a text, with what stands between it and the wildcard before it. -/
structure Occurrence where
  ahead : List Char
  segments : List String

/-- The characters from behind the wildcard before up to the star of this one. -/
def Occurrence.text (site : Occurrence) : List Char :=
  site.ahead ++ (wildcardText site.segments).toList

/-- The pieces that make up the text of an occurrence. -/
def Occurrence.pieces (site : Occurrence) : List Piece :=
  site.ahead.map .literal ++ [.wildcard site.segments]

/-- A wildcard begins as early as it can, and no star is passed over on the way to it. -/
structure Occurrence.Earliest (site : Occurrence) : Prop where
  named : ∀ segment ∈ site.segments, Identifier segment
  starless : '*' ∉ site.ahead
  first : ∀ before behind, site.ahead = before ++ behind →
    IsPath (behind ++ pathChars site.segments) → behind = []

/-- A text is cut into its wildcards, each with what stands ahead of it, and a rest without any. -/
structure Cut (text : List Char) (found : List Occurrence) (rest : List Char) : Prop where
  whole : text = found.flatMap Occurrence.text ++ rest
  each : ∀ site ∈ found, site.Earliest
  last : '*' ∉ rest

/-- What becomes of a text when its wildcards are replaced. -/
def filled (found : List Occurrence) (texts : List String) (rest : List Char) : String :=
  String.join (found.zipWith (fun site text => String.ofList site.ahead ++ text) texts) ++
    String.ofList rest

/-- The text of a wildcard is its path with a star behind it. -/
theorem toList_wildcardText (segments : List String) :
    (wildcardText segments).toList = pathChars segments ++ ['*'] := by
  -- The text is joined from the same pieces.
  simp [wildcardText, pathChars, String.toList_join, List.flatMap_map]

section Reading

/-- A word begins with a character of names that is no digit. -/
theorem startsWord_iff {c : Char} :
    startsWord c = true ↔ NameFault.isNameChar c = true ∧ c.isDigit = false := by
  -- Letters and the underscore are all characters of names but digits.
  have underscore : c = '_' → c.isDigit = false := by
    rintro rfl
    rfl
  simp only [startsWord, NameFault.isNameChar, Char.isAlphanum, Bool.or_eq_true, beq_iff_eq]
  constructor
  · rintro (letter | same)
    · exact ⟨.inl (.inl letter), isDigit_of_isAlpha letter⟩
    · exact ⟨.inr same, underscore same⟩
  · rintro ⟨(letter | digit) | same, plain⟩
    · exact .inl letter
    · rw [plain] at digit
      cases digit
    · exact .inr same

/-- What satisfies a condition is taken from the start of a text if the rest does not go on with
it. -/
theorem takeWhile_append_of_stop {p : Char → Bool} {taken rest : List Char}
    (inside : ∀ c ∈ taken, p c = true) (stops : ∀ c, rest.head? = some c → p c = false) :
    (taken ++ rest).takeWhile p = taken ∧ (taken ++ rest).dropWhile p = rest := by
  -- All of the first part is taken, and then it depends on what follows.
  rw [List.takeWhile_append_of_pos inside, List.dropWhile_append_of_pos inside]
  -- The first character of the rest decides, if there is one.
  cases rest with
  | nil => simp
  | cons next behind => simp [stops next rfl]

/-- Reading an identifier takes all characters of names from a text that begins with one. -/
theorem identifier?_eq_some_iff {text name rest : List Char} :
    identifier? text = some (name, rest) ↔
      text = name ++ rest ∧ Identifier (String.ofList name) ∧
        ∀ c, rest.head? = some c → inWord c = false := by
  constructor
  · intro read
    cases text with
    | nil => cases read
    | cons c more =>
      simp only [identifier?] at read
      split at read
      · rename_i start
        cases read
        -- What was taken begins as a word does and goes on with characters of names.
        obtain ⟨letter, plain⟩ := startsWord_iff.mp start
        refine ⟨by simp [List.takeWhile_append_dropWhile], ⟨by simp, ?_, ?_⟩, ?_⟩
        · rintro first same
          simp only [String.toList_ofList, List.head?_cons, Option.some.injEq] at same
          exact same ▸ plain
        · intro other listed
          rw [String.toList_ofList] at listed
          rcases List.mem_cons.mp listed with rfl | inside
          · exact letter
          · exact List.mem_takeWhile_imp inside
        · -- Taking stops only where the text ends or a character is no part of a name.
          intro next first
          have stopped := List.head?_dropWhile_not inWord more
          rwa [first] at stopped
      · cases read
  · rintro ⟨rfl, identifier, stops⟩
    cases name with
    | nil => exact absurd rfl identifier.filled
    | cons c more =>
      have start : startsWord c = true :=
        startsWord_iff.mpr ⟨identifier.letters c (by simp), identifier.start c (by simp)⟩
      have inside : ∀ other ∈ more, inWord other = true :=
        fun other listed => identifier.letters other (by simp [listed])
      -- What follows does not begin with a character of names, so no more is taken.
      obtain ⟨taken, left⟩ := takeWhile_append_of_stop inside stops
      simp [identifier?, start, taken, left]

/-- A wildcard is read off a text that begins with a path of identifiers and a star. -/
theorem wildcard?_eq_some_iff {text : List Char} {segments : List String} {rest : List Char} :
    wildcard? text = some (segments, rest) ↔
      (∀ segment ∈ segments, Identifier segment) ∧ text = pathChars segments ++ '*' :: rest := by
  -- The reader goes from name to name, and so do both inductions: on its run and on the segments.
  constructor
  · intro read
    induction text using wildcard?.induct generalizing segments rest with
    | case1 tail =>
      -- The star comes at once, and no name is read.
      simp only [wildcard?, Option.some.injEq, Prod.mk.injEq] at read
      obtain ⟨rfl, rfl⟩ := read
      exact ⟨by simp, rfl⟩
    | case2 text notStar name tail found ih =>
      rw [wildcard?.eq_2 text notStar] at read
      split at read
      · rename_i other after again
        obtain ⟨rfl, rfl⟩ : name = other ∧ tail = after := by simpa [found] using again
        obtain ⟨⟨inner, left⟩, within, same⟩ := Option.map_eq_some_iff.mp read
        cases same
        -- A name was read with a point behind it, and a wildcard behind that.
        obtain ⟨rfl, identifier, -⟩ := identifier?_eq_some_iff.mp found
        obtain ⟨identifiers, rfl⟩ := ih within
        refine ⟨?_, by simp [pathChars]⟩
        intro segment listed
        rcases List.mem_cons.mp listed with rfl | later
        · exact identifier
        · exact identifiers segment later
      · cases read
    | case3 text notStar stuck =>
      -- Where no name can be read, no wildcard is.
      rw [wildcard?.eq_2 text notStar] at read
      split at read
      · rename_i name tail found
        exact absurd found (stuck name tail)
      · cases read
  · rintro ⟨identifiers, rfl⟩
    induction segments with
    | nil => simp [pathChars, wildcard?]
    | cons segment more ih =>
      -- The name is read off first, up to the point behind it.
      have identifier := identifiers segment List.mem_cons_self
      have read : identifier? (pathChars (segment :: more) ++ '*' :: rest) =
          some (segment.toList, '.' :: (pathChars more ++ '*' :: rest)) :=
        identifier?_eq_some_iff.mpr ⟨by simp [pathChars], by simpa using identifier, by
          rintro c first
          cases first
          rfl⟩
      -- A text that begins with an identifier does not begin with a star.
      have notStar : ∀ tail, pathChars (segment :: more) ++ '*' :: rest = '*' :: tail → False := by
        intro tail same
        rw [same] at read
        cases read
      rw [wildcard?.eq_2 _ notStar]
      split
      · rename_i name tail again
        obtain ⟨rfl, rfl⟩ : segment.toList = name ∧ pathChars more ++ '*' :: rest = tail := by
          simpa [read] using again
        rw [ih fun other listed => identifiers other (List.mem_cons_of_mem _ listed)]
        simp
      · rename_i stuck
        exact absurd read (stuck _ _)

/-- A path of identifiers has no star in it. -/
theorem star_not_mem_pathChars {segments : List String}
    (identifiers : ∀ segment ∈ segments, Identifier segment) : '*' ∉ pathChars segments := by
  -- A star would stand in a name or be a point.
  intro inside
  obtain ⟨segment, listed, here⟩ := List.mem_flatMap.mp inside
  rcases List.mem_append.mp here with letter | point
  · exact (identifiers segment listed).not_mem (by decide) letter
  · exact absurd (List.mem_singleton.mp point) (by decide)

/-- A text begins with a wildcard exactly if a path and a star stand there. -/
theorem wildcard?_eq_none_iff {text : List Char} :
    wildcard? text = none ↔ ∀ path rest, text = path ++ '*' :: rest → ¬ IsPath path := by
  -- Nothing is read exactly if nothing that could be read stands there.
  rw [Option.eq_none_iff_forall_ne_some]
  constructor
  · rintro none path rest rfl ⟨segments, identifiers, rfl⟩
    exact none _ (wildcard?_eq_some_iff.mpr ⟨identifiers, rfl⟩)
  · rintro none ⟨segments, rest⟩ read
    obtain ⟨identifiers, whole⟩ := wildcard?_eq_some_iff.mp read
    exact none _ rest whole ⟨segments, identifiers, rfl⟩

/-- A wildcard with nothing ahead of it could not begin any earlier. -/
theorem earliest_of_named {segments : List String}
    (named : ∀ segment ∈ segments, Identifier segment) :
    Occurrence.Earliest ⟨[], segments⟩ where
  -- There is no room for a longer path.
  named := named
  starless := List.not_mem_nil
  first _ _ nothing _ := (List.append_eq_nil_iff.mp nothing.symm).2

/-- The pieces of a text are those of a cut. -/
theorem exists_cut (text : List Char) :
    ∃ found rest, Cut text found rest ∧
      pieces text = found.flatMap Occurrence.pieces ++ rest.map .literal := by
  -- The induction follows the scanner: a wildcard is taken whole, any other character alone.
  induction text using pieces.induct with
  | case1 => exact ⟨[], [], ⟨rfl, by simp, by simp⟩, by simp [pieces]⟩
  | case2 c more segments behind read ih =>
    obtain ⟨found, rest, cut, same⟩ := ih
    -- The wildcard stands at the very beginning, so nothing is ahead of it.
    obtain ⟨identifiers, whole⟩ := wildcard?_eq_some_iff.mp read
    refine ⟨⟨[], segments⟩ :: found, rest, ⟨?_, ?_, cut.last⟩, ?_⟩
    · rw [whole, cut.whole]
      simp [Occurrence.text, toList_wildcardText]
    · exact List.forall_mem_cons.mpr ⟨earliest_of_named identifiers, cut.each⟩
    · rw [pieces]
      split
      · rename_i other after again
        cases read.symm.trans again
        simp [same, Occurrence.pieces]
      · rename_i none
        cases read.symm.trans none
  | case3 c more none ih =>
    obtain ⟨found, rest, cut, same⟩ := ih
    -- No wildcard begins with the character, which is therefore no star either.
    have unread := wildcard?_eq_none_iff.mp none
    have notStar : c ≠ '*' := by
      rintro rfl
      exact unread [] more rfl ⟨[], by simp, rfl⟩
    have first : pieces (c :: more) = .literal c :: pieces more := by
      rw [pieces]
      split
      · rename_i read
        cases none.symm.trans read
      · rfl
    cases found with
    | nil =>
      refine ⟨[], c :: rest, ⟨by simp [cut.whole], by simp, ?_⟩, by simp [first, same]⟩
      simpa using ⟨notStar.symm, cut.last⟩
    | cons site others =>
      -- The character stands ahead of the next wildcard, which does not begin with it.
      obtain ⟨earliest, each⟩ := List.forall_mem_cons.mp cut.each
      refine ⟨⟨c :: site.ahead, site.segments⟩ :: others, rest, ⟨?_, ?_, cut.last⟩,
        by simp [first, same, Occurrence.pieces]⟩
      · simp [cut.whole, Occurrence.text, toList_wildcardText]
      · refine List.forall_mem_cons.mpr ⟨⟨earliest.named, ?_, ?_⟩, each⟩
        · simpa using ⟨notStar.symm, earliest.starless⟩
        · intro before behind split path
          cases before with
          | cons _ before =>
            exact earliest.first before behind (List.cons.inj split).2 path
          | nil =>
            refine absurd path (unread _ (others.flatMap Occurrence.text ++ rest) ?_)
            rw [List.nil_append] at split
            simp [← split, cut.whole, Occurrence.text, toList_wildcardText]

/-- Texts that are equal up to the first star are equal before it and behind it. -/
theorem eq_of_append_star {left left' right right' : List Char} (none : '*' ∉ left)
    (none' : '*' ∉ left') (same : left ++ '*' :: right = left' ++ '*' :: right') :
    left = left' ∧ right = right' := by
  -- What stands before the first star is what can be taken without one.
  have taken : ∀ {ahead behind : List Char}, '*' ∉ ahead →
      (ahead ++ '*' :: behind).takeWhile (· != '*') = ahead := by
    intro ahead behind starless
    refine (takeWhile_append_of_stop (fun c listed => ?_) (by simp)).1
    simpa using fun same : c = '*' => starless (same ▸ listed)
  have ahead : left = left' := by rw [← taken none, same, taken none']
  subst ahead
  exact ⟨rfl, by simpa using same⟩

/-- The segments of a path are told apart by its points. -/
theorem pathChars_injective {segments segments' : List String}
    (identifiers : ∀ segment ∈ segments, Identifier segment)
    (identifiers' : ∀ segment ∈ segments', Identifier segment)
    (same : pathChars segments = pathChars segments') : segments = segments' := by
  -- A path with a star behind it is a wildcard, and it is read in one way.
  have read : wildcard? (pathChars segments ++ ['*']) = some (segments, []) :=
    wildcard?_eq_some_iff.mpr ⟨identifiers, rfl⟩
  have read' : wildcard? (pathChars segments' ++ ['*']) = some (segments', []) :=
    wildcard?_eq_some_iff.mpr ⟨identifiers', rfl⟩
  rw [same, read'] at read
  cases read
  rfl

/-- A wildcard that begins as early as it can begins at one place only. -/
theorem Occurrence.Earliest.eq {site site' : Occurrence} (earliest : site.Earliest)
    (earliest' : site'.Earliest)
    (same : site.ahead ++ pathChars site.segments = site'.ahead ++ pathChars site'.segments) :
    site = site' := by
  -- Of two beginnings the later one would not be as early as it can be.
  have path : ∀ {site : Occurrence}, site.Earliest → IsPath (pathChars site.segments) :=
    fun earliest => ⟨_, earliest.named, rfl⟩
  have ahead : site.ahead = site'.ahead := by
    rcases List.append_eq_append_iff.mp same with ⟨more, split, longer⟩ | ⟨more, split, longer⟩
    · have nothing := earliest'.first _ more split (longer ▸ path earliest)
      simp [split, nothing]
    · have nothing := earliest.first _ more split (longer ▸ path earliest')
      simp [split, nothing]
  rw [ahead, List.append_cancel_left_eq] at same
  have segments := pathChars_injective earliest.named earliest'.named same
  cases site
  cases site'
  simp_all

/-- A text is cut in one way only. -/
theorem Cut.unique {text : List Char} {found found' : List Occurrence} {rest rest' : List Char}
    (cut : Cut text found rest) (cut' : Cut text found' rest') : found = found' ∧ rest = rest' := by
  -- The first star of the text ends the first wildcard of both cuts.
  have starless : ∀ {site : Occurrence}, site.Earliest →
      '*' ∉ site.ahead ++ pathChars site.segments := fun earliest inside =>
    (List.mem_append.mp inside).elim earliest.starless (star_not_mem_pathChars earliest.named)
  have opened : ∀ (site : Occurrence) (others : List Occurrence) (rest : List Char),
      (site :: others).flatMap Occurrence.text ++ rest =
        (site.ahead ++ pathChars site.segments) ++ '*' ::
          (others.flatMap Occurrence.text ++ rest) := by
    intro site others rest
    simp [Occurrence.text, toList_wildcardText]
  induction found generalizing text found' with
  | nil =>
    cases found' with
    | nil => exact ⟨rfl, by simpa using cut.whole.symm.trans cut'.whole⟩
    | cons site' others' =>
      -- The star of a wildcard would stand in a rest without any.
      refine absurd ?_ cut.last
      have whole := cut.whole.symm.trans cut'.whole
      rw [opened] at whole
      simp only [List.flatMap_nil, List.nil_append] at whole
      simp [whole]
  | cons site others ih =>
    cases found' with
    | nil =>
      -- The same holds with the cuts exchanged.
      refine absurd ?_ cut'.last
      have whole := cut'.whole.symm.trans cut.whole
      rw [opened] at whole
      simp only [List.flatMap_nil, List.nil_append] at whole
      simp [whole]
    | cons site' others' =>
      -- Both cuts have a first wildcard, and it ends at the same star.
      obtain ⟨earliest, each⟩ := List.forall_mem_cons.mp cut.each
      obtain ⟨earliest', each'⟩ := List.forall_mem_cons.mp cut'.each
      have whole := cut.whole.symm.trans cut'.whole
      rw [opened, opened] at whole
      obtain ⟨ahead, behind⟩ := eq_of_append_star (starless earliest) (starless earliest') whole
      obtain ⟨rfl, rfl⟩ := ih ⟨rfl, each, cut.last⟩ ⟨behind, each', cut'.last⟩
      exact ⟨by rw [earliest.eq earliest' ahead], rfl⟩

end Reading

section Replacing

variable {m : Type → Type} [Monad m] [LawfulMonad m]

/-- The text of a piece. -/
def pieceText (expand : List String → m String) : Piece → m String
  | .literal c => pure (String.singleton c)
  | .wildcard segments => expand segments

/-- Characters that are no part of a wildcard stay as they are. -/
theorem mapM_pieceText_literal (expand : List String → m String) (chars : List Char) :
    (chars.map Piece.literal).mapM (pieceText expand) = pure (chars.map String.singleton) := by
  -- The induction is on the characters, each of which is a text of its own.
  induction chars with
  | nil => simp
  | cons c rest ih => simp [pieceText, ih]

/-- Characters that are written one by one make up their text. -/
theorem join_singleton (chars : List Char) :
    String.join (chars.map String.singleton) = String.ofList chars := by
  -- Texts are the same if their characters are.
  apply String.toList_injective
  simp [String.toList_join, List.flatMap_map]

/-- The texts of the pieces of a cut are those ahead of its wildcards and those of the wildcards. -/
theorem join_mapM_pieceText (expand : List String → m String) (found : List Occurrence)
    (rest : List Char) :
    String.join <$>
        (found.flatMap Occurrence.pieces ++ rest.map Piece.literal).mapM (pieceText expand) =
      (fun texts => filled found texts rest) <$> found.mapM fun site => expand site.segments := by
  -- The induction is on the wildcards, each with the characters ahead of it.
  induction found with
  | nil =>
    rw [List.flatMap_nil, List.nil_append, mapM_pieceText_literal, List.mapM_nil]
    simp [join_singleton, filled]
  | cons site others ih =>
    have opened : (site :: others).flatMap Occurrence.pieces ++ rest.map Piece.literal =
        site.ahead.map .literal ++ .wildcard site.segments ::
          (others.flatMap Occurrence.pieces ++ rest.map .literal) := by
      simp [Occurrence.pieces]
    rw [opened, List.mapM_append, mapM_pieceText_literal, List.mapM_cons, List.mapM_cons]
    simp only [pieceText, pure_bind, bind_assoc, map_bind, map_pure]
    refine bind_congr fun text => ?_
    -- What stands ahead of the first wildcard and its text stand ahead of all that follows.
    have join : ∀ texts, String.join (site.ahead.map String.singleton ++ text :: texts) =
        String.ofList site.ahead ++ text ++ String.join texts := by
      intro texts
      simp [String.join_append, join_singleton, String.append_assoc]
    calc
      _ = (String.ofList site.ahead ++ text ++ ·) <$> (String.join <$>
          (others.flatMap Occurrence.pieces ++
            rest.map Piece.literal).mapM (pieceText expand)) := by
        simp only [join, Functor.map_map, bind_pure_comp]
      _ = _ := by
        rw [ih]
        simp [filled, String.append_assoc]

/-- Replacing the wildcards of a template runs over the wildcards alone, from left to right. -/
theorem substitute_eq {template : String} {head tail : String}
    (split : splitAtLiteral template = (head, tail)) {found : List Occurrence} {rest : List Char}
    (same : pieces head.toList = found.flatMap Occurrence.pieces ++ rest.map .literal)
    (expand : List String → m String) :
    substitute template expand = (fun texts => filled found texts rest ++ tail) <$>
      found.mapM fun site => expand site.segments := by
  -- The pieces are run through one by one, and only wildcards have an effect.
  have run : ∀ step : Piece → m String, step = pieceText expand →
      ((pieces head.toList).mapM step >>= fun texts => pure (String.join texts ++ tail)) =
        (fun texts => filled found texts rest ++ tail) <$>
          found.mapM fun site => expand site.segments := by
    rintro _ rfl
    rw [← Functor.map_map (fun texts => filled found texts rest) (· ++ tail),
      ← join_mapM_pieceText, ← same, Functor.map_map, map_eq_pure_bind]
  rw [substitute, split]
  exact run _ (funext fun piece => by cases piece <;> rfl)

end Replacing

/-- The head of a template ends at the first quote, and the tail begins there. -/
theorem splitAtLiteral_spec {template head tail : String}
    (split : splitAtLiteral template = (head, tail)) :
    head ++ tail = template ∧ '\x27' ∉ head.toList ∧
      ∀ c, tail.toList.head? = some c → c = '\x27' := by
  -- The head is taken from the template as long as there is no quote, and the tail is what is left.
  simp only [splitAtLiteral, Prod.mk.injEq] at split
  obtain ⟨rfl, rfl⟩ := split
  refine ⟨?_, ?_, ?_⟩
  · rw [← String.ofList_append, List.takeWhile_append_dropWhile, String.ofList_toList]
  · -- No quote is taken.
    intro inside
    rw [String.toList_ofList] at inside
    simpa using List.mem_takeWhile_imp inside
  · -- What is left begins with what was not taken.
    intro c first
    rw [String.toList_ofList] at first
    have stopped := List.head?_dropWhile_not (· != '\x27') template.toList
    rw [first] at stopped
    simpa using stopped

/-- A text has as many stars as wildcards. -/
theorem Cut.count_star {text : List Char} {found : List Occurrence} {rest : List Char}
    (cut : Cut text found rest) : text.count '*' = found.length := by
  -- Each wildcard has the star that it ends with, and there is no other.
  have once : ∀ site ∈ found, site.text.count '*' = 1 := by
    intro site listed
    have earliest := cut.each site listed
    simp [Occurrence.text, toList_wildcardText, List.count_eq_zero.mpr earliest.starless,
      List.count_eq_zero.mpr (star_not_mem_pathChars earliest.named)]
  rw [cut.whole, List.count_append, List.count_eq_zero.mpr cut.last, List.count_flatMap]
  simp [Function.comp_def, List.map_congr_left once]

/--
A template is cut at its first quote, and in the head every wildcard is replaced and nothing else.

Each star of the head ends one wildcard, since neither what stands ahead of a wildcard nor its path
has any.
A wildcard begins as early as a path of identifiers can, and no other cut of the head is like that.
The expansions of the wildcards run from left to right, so the first one that fails decides.
-/
theorem substitute_replaces_wildcards (template : String) :
    ∃ head tail found rest,
      splitAtLiteral template = (head, tail) ∧ head ++ tail = template ∧
      '\x27' ∉ head.toList ∧ (∀ c, tail.toList.head? = some c → c = '\x27') ∧
      Cut head.toList found rest ∧ head.toList.count '*' = found.length ∧
      (∀ found' rest', Cut head.toList found' rest' → found' = found ∧ rest' = rest) ∧
      (∀ {m : Type → Type} [Monad m] [LawfulMonad m] (expand : List String → m String),
        substitute template expand = (fun texts => filled found texts rest ++ tail) <$>
          found.mapM fun site => expand site.segments) ∧
      ∀ {ε : Type} (expand : List String → Except ε String),
        (∀ texts, List.Forall₂ (fun site text => expand site.segments = .ok text) found texts →
          substitute template expand = .ok (filled found texts rest ++ tail)) ∧
        ∀ earlier site later fault, found = earlier ++ site :: later →
          (∀ other ∈ earlier, ∃ text, expand other.segments = .ok text) →
          expand site.segments = .error fault → substitute template expand = .error fault := by
  -- The template is split at its first quote, and the head has a cut.
  obtain ⟨head, tail, split⟩ : ∃ head tail, splitAtLiteral template = (head, tail) := ⟨_, _, rfl⟩
  obtain ⟨found, rest, cut, same⟩ := exists_cut head.toList
  obtain ⟨whole, unquoted, quoted⟩ := splitAtLiteral_spec split
  refine ⟨head, tail, found, rest, split, whole, unquoted, quoted, cut, cut.count_star,
    fun _ _ other => other.unique cut, substitute_eq split same, ?_⟩
  intro ε expand
  rw [substitute_eq split same]
  refine ⟨fun texts each => ?_, ?_⟩
  · -- If all wildcards have a text, these fill the head.
    rw [mapM_eq_ok_iff.mpr each]
    rfl
  · -- The first one without a text ends the run with its fault.
    rintro earlier site later fault rfl before failed
    rw [mapM_eq_error_of_first before failed]
    rfl

/-- The head of a template with two wildcards, one behind a digit and the other behind a comma. -/
theorem cut_behind_digit : Cut "1a.*,*".toList [⟨['1'], ["a"]⟩, ⟨[','], []⟩] [] := by
  -- Both wildcards begin as early as they can, the one behind a digit and the other behind a comma.
  have a : Identifier "a" := by
    refine ⟨by decide, fun c first => ?_, fun c listed => ?_⟩
    · cases first
      rfl
    · obtain rfl : c = 'a' := List.mem_singleton.mp listed
      rfl
  -- Of the one character ahead of each wildcard nothing could be a part of its path.
  have alone : ∀ {c : Char} {path : List Char}, wildcard? (c :: (path ++ ['*'])) = none →
      ∀ before behind, [c] = before ++ behind → IsPath (behind ++ path) → behind = [] := by
    intro c path unread before behind split begins
    cases before with
    | nil =>
      rw [List.nil_append] at split
      subst split
      exact absurd begins (wildcard?_eq_none_iff.mp unread _ [] (by simp))
    | cons _ before => exact (List.append_eq_nil_iff.mp (List.cons.inj split).2.symm).2
  refine ⟨by decide, List.forall_mem_cons.mpr ⟨⟨by simpa using a, by decide, alone ?_⟩,
    List.forall_mem_cons.mpr ⟨⟨by simp, by decide, alone ?_⟩, by simp⟩⟩, by simp⟩
  · rw [wildcard?.eq_2 _ (by simp)]
    rfl
  · rw [wildcard?.eq_2 _ (by simp)]
    rfl

/-- Both wildcards of a template are replaced, the quoted one is not, and of two that fail the first
decides. -/
theorem substitute_replaces_wildcards_twice :
    substitute "1a.*,*'*" (fun segments => (.ok (String.join segments ++ "Id") : Except String _)) =
        .ok "1aId,Id'*" ∧
      substitute "1a.*,*'*" (fun segments => .error segments) =
        (.error ["a"] : Except (List String) String) := by
  -- The head has one cut only, so it is the one of which the law speaks.
  obtain ⟨head, tail, found, rest, split, -, -, -, -, -, unique, -, replaces⟩ :=
    substitute_replaces_wildcards "1a.*,*'*"
  have same : splitAtLiteral "1a.*,*'*" = ("1a.*,*", "'*") := by decide
  cases same.symm.trans split
  obtain ⟨rfl, rfl⟩ := unique _ _ cut_behind_digit
  refine ⟨?_, ?_⟩
  · rw [(replaces _).1 ["aId", "Id"] (.cons rfl (.cons rfl .nil))]
    rfl
  · exact (replaces _).2 [] _ _ _ rfl (by simp) rfl

end Template

end RemoteRecords
