import RemoteRecords.Proofs.Query.Compilation

/-! Recompilation: a compiled query has no wildcards left, so it compiles to itself. -/

namespace RemoteRecords

/-- The characters that field lists are written in: those of names, and what stands between them. -/
def IsListChar (c : Char) : Prop :=
  NameFault.isNameChar c = true ∨ c ∈ [' ', '(', ')', ',', '.']

instance (c : Char) : Decidable (IsListChar c) :=
  inferInstanceAs (Decidable (_ ∨ _))

/-- A text is written in the characters of field lists. -/
def InListChars (text : String) : Prop :=
  ∀ c ∈ text.toList, IsListChar c

instance (text : String) : Decidable (InListChars text) :=
  List.decidableBAll _ _

/-- Two texts together are written in these characters if both of them are. -/
theorem inListChars_append (left right : String) :
    InListChars (left ++ right) ↔ InListChars left ∧ InListChars right := by
  -- Each character stands in one of the two.
  simp [InListChars, or_imp, forall_and]

/-- Identifiers are written in these characters. -/
theorem Identifier.inListChars {name : String} (named : Identifier name) : InListChars name :=
  -- All characters of an identifier are characters of names.
  fun c listed => .inl (named.letters c listed)

/-- Dotted paths are written in these characters. -/
theorem DottedPath.inListChars {path : String} (dotted : DottedPath path) : InListChars path := by
  -- The induction is on the names, with a point between each two.
  induction dotted with
  | name named => exact named.inListChars
  | dot _ named ih =>
    have point : InListChars "." := by decide
    simp only [inListChars_append]
    exact ⟨⟨ih, point⟩, named.inListChars⟩

mutual

/-- A well-formed list is written in these characters. -/
theorem ListText.inListChars {path : String} {depth enclosing : Nat} {text : String} :
    ListText path depth enclosing text → InListChars text
  -- The recursion follows the grammar, through items, lists and branches in turn.
  | .one first => first.inListChars
  | .more first others => by
    have comma : InListChars "," := by decide
    simp only [inListChars_append]
    exact ⟨⟨first.inListChars, comma⟩, others.inListChars⟩

/-- A well-formed item is written in these characters. -/
theorem ItemText.inListChars {path : String} {depth enclosing : Nat} {text : String} :
    ItemText path depth enclosing text → InListChars text
  -- Between its parts an item has nothing but words and parentheses.
  | .path dotted _ => dotted.inListChars
  | .subquery items named => by
    have words : InListChars "(SELECT " ∧ InListChars " FROM " ∧ InListChars ")" := by decide
    simp only [inListChars_append]
    exact ⟨⟨⟨⟨words.1, items.inListChars⟩, words.2.1⟩, named.inListChars⟩, words.2.2⟩
  | .typeOf named held => by
    have words : InListChars "TYPEOF " ∧ InListChars " END" := by decide
    simp only [inListChars_append]
    exact ⟨⟨⟨words.1, named.inListChars⟩, held.inListChars⟩, words.2⟩
  | .typeOfElse named held last => by
    have words : InListChars "TYPEOF " ∧ InListChars " ELSE " ∧ InListChars " END" := by decide
    simp only [inListChars_append]
    exact ⟨⟨⟨⟨⟨words.1, named.inListChars⟩, held.inListChars⟩, words.2.1⟩, last.inListChars⟩,
      words.2.2⟩

/-- Well-formed branches are written in these characters. -/
theorem BranchTexts.inListChars {path : String} {depth enclosing : Nat} {text : String} :
    BranchTexts path depth enclosing text → InListChars text
  -- Between their parts branches have nothing but words.
  | .one named items => by
    have words : InListChars " WHEN " ∧ InListChars " THEN " := by decide
    simp only [inListChars_append]
    exact ⟨⟨⟨words.1, named.inListChars⟩, words.2⟩, items.inListChars⟩
  | .more named items others => by
    have words : InListChars " WHEN " ∧ InListChars " THEN " := by decide
    simp only [inListChars_append]
    exact ⟨⟨⟨⟨words.1, named.inListChars⟩, words.2⟩, items.inListChars⟩, others.inListChars⟩

end

namespace Template

/-- A character that stands neither between the wildcards nor in the texts in place of them does not
stand in the filled template. -/
theorem not_mem_filled {found : List Occurrence} {texts : List String} {rest : List Char} {c : Char}
    (ahead : ∀ site ∈ found, c ∉ site.ahead) (inside : ∀ text ∈ texts, c ∉ text.toList)
    (behind : c ∉ rest) : c ∉ (filled found texts rest).toList := by
  -- Wildcards are gone through together with their texts, as far as there are both.
  induction found generalizing texts with
  | nil => simpa [filled] using behind
  | cons site others ih =>
    cases texts with
    | nil => simpa [filled] using behind
    | cons text more =>
      obtain ⟨first, later⟩ := List.forall_mem_cons.mp ahead
      obtain ⟨here, there⟩ := List.forall_mem_cons.mp inside
      have others := ih later there
      -- The character is in none of the three parts that the text is made of.
      simp only [filled, List.zipWith_cons_cons, String.join_cons, String.toList_append,
        String.toList_ofList, List.mem_append, not_or] at others ⊢
      exact ⟨⟨⟨first, here⟩, others.1⟩, others.2⟩

end Template

namespace Query

open Expansion Template Registry

/-- A template without wildcards is compiled as it is, apart from the bounds. -/
theorem compile_of_starless {registry : Registry} (root : Descriptor) {template : String}
    (starless : '*' ∉ (splitAtLiteral template).1.toList) (options : CompileOptions) :
    compile registry root template options = .ok (template ++ bounds options) := by
  -- A text without a star is cut into no wildcards, so there is nothing to expand.
  obtain ⟨whole, -, -⟩ := splitAtLiteral_spec (rfl : splitAtLiteral template = (_, _))
  refine (compile_eq_ok_iff rfl (cut_of_starless starless)).mpr ⟨[], .nil, ?_⟩
  simp [filled, whole]

/-- The field list of a wildcard is written in the characters of field lists. -/
theorem inListChars_of_expandWildcard {config : MappingConfig} {calls : List Lookup}
    {root : Descriptor} (published : root ∈ (after config calls).arena) {depth : Nat}
    {segments : List String} {text : String}
    (expanded : expandWildcard (selectList (after config calls)) (after config calls) root depth
      segments = .ok text) : InListChars text := by
  -- The wildcard was expanded where its path leads, to what is listed there.
  obtain ⟨⟨reached, path⟩, followed, some, rfl⟩ := (expandWildcard_eq_ok_iff published).mp expanded
  obtain ⟨there, opens⟩ := published_of_follow published (.inl rfl) followed
  -- What is listed there is a well-formed list below the path that was followed.
  have same : path ++ "" = path := String.append_empty
  have within : points "" + 0 + (depth - (withoutRoot root segments).length + 1) ≤
      depth - (withoutRoot root segments).length + 1 := by simp [points]
  have items := itemText_of_mem_listing there (same.symm ▸ opens) within
  rw [same] at items
  exact (listText_of_items some items).inListChars

end Query

namespace Mapper

open Relation Template

/--
However a mapper was used, a query that it has compiled is a fixed point of compilation.

Before its first quote there is no star left, and from there on it is the template.
So it compiles to itself then and ever since, at any depth.
-/
theorem compile_is_idempotent {config : MappingConfig} {mapper : Mapper}
    (used : ReflTransGen Step (ofConfig config) mapper) {root : Descriptor}
    (published : root ∈ mapper.registry.arena) {template query : String} {depth : Nat}
    (compiled : ((compile root template { depth }).run.run mapper).1 = .ok query) :
    '*' ∉ (splitAtLiteral query).1.toList ∧
      (splitAtLiteral query).2 = (splitAtLiteral template).2 ∧
      ∀ later, ReflTransGen Step mapper later → ∀ depth',
        ((compile root query { depth := depth' }).run.run later).1 = .ok query := by
  -- The query is the head with its wildcards filled in, and the tail as it was.
  obtain ⟨calls, history⟩ := exists_history_of_used used
  obtain ⟨head, tail, split⟩ : ∃ head tail, splitAtLiteral template = (head, tail) := ⟨_, _, rfl⟩
  obtain ⟨found, rest, cut, -⟩ := exists_cut head.toList
  obtain ⟨-, unquoted, quoted⟩ := splitAtLiteral_spec split
  rw [run_compile_of_used used, mapError_eq_ok_iff, Query.compile_eq_ok_iff split cut, history]
    at compiled
  rw [history] at published
  obtain ⟨texts, each, rfl⟩ := compiled
  -- The texts of the wildcards have neither a star nor a quote.
  have plain : ∀ text ∈ texts, InListChars text := by
    intro text listed
    obtain ⟨site, -, expanded⟩ := exists_left_of_forall₂ each listed
    exact Query.inListChars_of_expandWildcard published expanded
  have spared : ∀ {c : Char}, ¬ IsListChar c → ∀ text ∈ texts, c ∉ text.toList :=
    fun foreign text listed inside => foreign (plain text listed _ inside)
  have starless : '*' ∉ (filled found texts rest).toList :=
    not_mem_filled (fun site listed => (cut.each site listed).starless) (spared (by decide)) cut.last
  have noQuote : '\x27' ∉ (filled found texts rest).toList := by
    -- What stands between the wildcards is a part of the head.
    rw [cut.whole, List.mem_append, not_or] at unquoted
    refine not_mem_filled (fun site listed inside => unquoted.1 ?_) (spared (by decide)) unquoted.2
    exact List.mem_flatMap.mpr ⟨site, listed, List.mem_append_left _ inside⟩
  have unbounded : ∀ depth, Query.bounds { depth } = "" := fun _ => rfl
  have again : splitAtLiteral (filled found texts rest ++ tail) =
      (filled found texts rest, tail) := splitAtLiteral_eq noQuote quoted
  rw [unbounded, String.append_empty, again, split]
  -- Without a star the query is compiled as it is, wherever that is done.
  refine ⟨starless, rfl, fun later continued depth' => ?_⟩
  rw [run_compile_of_used (used.trans continued), mapError_eq_ok_iff,
    Query.compile_of_starless root (by rwa [again]), unbounded, String.append_empty]

/-- The star behind the quote stays, and the query is the same at any other depth. -/
theorem compile_is_idempotent_directory :
    ∃ account ∈ ofDirectory.registry.arena,
      let query := "SELECT Name,Parent.Name,Parent.Tags,(SELECT Email FROM Contacts),Tags " ++
        "FROM Account WHERE Name = '*'"
      ((compile account "SELECT * FROM Account WHERE Name = '*'" { depth := 1 }).run.run
          ofDirectory).1 = .ok query ∧
        ((compile account query { depth := 3 }).run.run ofDirectory).1 = .ok query := by
  -- The template is compiled once, and the law says what the query compiles to.
  have held : ∃ account, ofDirectory.registry.arena[0]? = some account ∧
      Query.compile ofDirectory.registry account "SELECT * FROM Account WHERE Name = '*'"
          { depth := 1 } =
        .ok ("SELECT Name,Parent.Name,Parent.Tags,(SELECT Email FROM Contacts),Tags " ++
          "FROM Account WHERE Name = '*'") := by
    rw [registry_ofDirectory, Registry.after_directory]
    exact ⟨_, rfl, by decide +kernel⟩
  obtain ⟨account, found, text⟩ := held
  have published := List.mem_of_getElem? found
  have compiled := (run_compile_of_used used_ofDirectory account
    "SELECT * FROM Account WHERE Name = '*'" { depth := 1 }).trans
      (mapError_eq_ok_iff.mpr text)
  obtain ⟨-, -, again⟩ := compile_is_idempotent used_ofDirectory published compiled
  exact ⟨account, published, compiled, again ofDirectory .refl 3⟩

end Mapper

end RemoteRecords
