import FlowTemplate.Proofs.Json.Token
/-!
# The grammar of JSON text

Tokens put together, with blanks between them: what is written where a value, the items of a list
or the members of a mapping stand. The reader takes exactly the texts of the grammar. Its bound on
the depth of calls is met by twice the length of a text.
-/

namespace FlowTemplate.Json

/-- Blanks only. -/
def Blanks (s : List Char) : Prop := ∀ c ∈ s, isBlank c = true

/-- What a part of a text writes. Items and members are written up to the bracket or brace that
closes their container. -/
inductive Piece where
  | value (v : Value)
  | items (items : List Value)
  | member (entry : Atom × Value)
  | members (entries : List (Atom × Value))

/-- The text writes the piece. -/
inductive Writes : List Char → Piece → Prop
  | text {raw chars : List Char} (body : Body raw chars) :
      Writes ('"' :: raw) (.value (.str (String.ofList chars)))
  | scalar {s : List Char} {a : Atom} (token : Scalar s a) : Writes s (.value (.atom a))
  | noItems {blanks : List Char} (hblanks : Blanks blanks) :
      Writes ('[' :: (blanks ++ [']'])) (.value (.list []))
  | list {blanks s : List Char} {items : List Value} (hblanks : Blanks blanks)
      (parts : Writes s (.items items)) : Writes ('[' :: (blanks ++ s)) (.value (.list items))
  | noMembers {blanks : List Char} (hblanks : Blanks blanks) :
      Writes ('\x7b' :: (blanks ++ ['\x7d'])) (.value (.map []))
  | map {blanks s : List Char} {entries : List (Atom × Value)} (hblanks : Blanks blanks)
      (parts : Writes s (.members entries)) :
      Writes ('\x7b' :: (blanks ++ s)) (.value (.map (Entries.ofPairs entries)))
  | lastItem {s blanks : List Char} {v : Value} (value : Writes s (.value v))
      (hblanks : Blanks blanks) : Writes (s ++ (blanks ++ [']'])) (.items [v])
  | item {s t before after : List Char} {v : Value} {items : List Value}
      (value : Writes s (.value v)) (hbefore : Blanks before) (hafter : Blanks after)
      (more : Writes t (.items items)) :
      Writes (s ++ (before ++ ',' :: (after ++ t))) (.items (v :: items))
  | member {raw key before after s : List Char} {v : Value} (body : Body raw key)
      (hbefore : Blanks before) (hafter : Blanks after) (value : Writes s (.value v)) :
      Writes ('"' :: (raw ++ (before ++ ':' :: (after ++ s))))
        (.member (.str (String.ofList key), v))
  | lastMember {s blanks : List Char} {entry : Atom × Value} (first : Writes s (.member entry))
      (hblanks : Blanks blanks) : Writes (s ++ (blanks ++ ['\x7d'])) (.members [entry])
  | moreMembers {s t before after : List Char} {entry : Atom × Value}
      {entries : List (Atom × Value)} (first : Writes s (.member entry))
      (hbefore : Blanks before) (hafter : Blanks after) (more : Writes t (.members entries)) :
      Writes (s ++ (before ++ ',' :: (after ++ t))) (.members (entry :: entries))

/-- A text, blanks around the value it writes. -/
def IsJson (s : List Char) (v : Value) : Prop :=
  ∃ before text after, s = before ++ (text ++ after) ∧ Blanks before ∧ Blanks after ∧
    Writes text (.value v)

/-! ## Blanks and first characters -/

theorem skipBlanks_cons {c : Char} (h : isBlank c = false) (rest : List Char) :
    skipBlanks (c :: rest) = c :: rest := by
  simp [skipBlanks, h]

theorem skipBlanks_append {blanks : List Char} (h : Blanks blanks) (rest : List Char) :
    skipBlanks (blanks ++ rest) = skipBlanks rest :=
  List.dropWhile_append_of_pos h

/-- Blanks in front of a character that is none. -/
theorem skipBlanks_before {blanks : List Char} (h : Blanks blanks) {c : Char}
    (hc : isBlank c = false) (rest : List Char) :
    skipBlanks (blanks ++ c :: rest) = c :: rest := by
  rw [skipBlanks_append h, skipBlanks_cons hc]

theorem blanks_nil : Blanks [] := fun _ hc => absurd hc List.not_mem_nil

theorem exists_blanks (s : List Char) : ∃ blanks, s = blanks ++ skipBlanks s ∧ Blanks blanks :=
  ⟨s.takeWhile isBlank, List.takeWhile_append_dropWhile.symm,
    List.all_eq_true.mp List.all_takeWhile⟩

theorem Blanks.follows {blanks rest : List Char} (h : Blanks blanks) (hrest : Follows rest) :
    Follows (blanks ++ rest) := by
  cases blanks with
  | nil => exact hrest
  | cons c blanks =>
    have hc : isBlank c = true := h c List.mem_cons_self
    simp only [isBlank, Bool.or_eq_true, beq_iff_eq] at hc
    refine follows_cons _ ?_
    rcases hc with ((rfl | rfl) | rfl) | rfl <;> decide

/-- The text starts with a character that is no blank, closes no container and is no byte order
mark. -/
def Opens (s : List Char) : Prop :=
  ∃ c rest, s = c :: rest ∧ isBlank c = false ∧ c ≠ ']' ∧ c ≠ '\x7d' ∧ c ≠ '\uFEFF'

theorem Opens.append {s : List Char} (h : Opens s) (rest : List Char) : Opens (s ++ rest) := by
  obtain ⟨c, tail, rfl, hc⟩ := h
  exact ⟨c, tail ++ rest, rfl, hc⟩

/-- Blanks in front of a piece. -/
theorem Opens.skipBlanks_eq {s blanks : List Char} (h : Opens s) (hblanks : Blanks blanks)
    (rest : List Char) : skipBlanks (blanks ++ (s ++ rest)) = s ++ rest := by
  obtain ⟨c, tail, rfl, hc, -⟩ := h
  exact skipBlanks_before hblanks hc (tail ++ rest)

/-- Nor does the text start with a byte order mark when blanks are put in front of it. -/
theorem Opens.not_marked {s blanks : List Char} (h : Opens s) (hblanks : Blanks blanks) :
    ((blanks ++ s).head? == some '\uFEFF') = false := by
  cases blanks with
  | nil =>
    obtain ⟨c, rest, rfl, -, -, -, hc⟩ := h
    simpa using hc
  | cons c blanks =>
    have hc : isBlank c = true := hblanks c List.mem_cons_self
    rw [List.cons_append, List.head?_cons, beq_eq_false_iff_ne, ne_eq, Option.some.injEq]
    rintro rfl
    cases hc

/-- Characters that no word and no number starts with. -/
def delimiters : List Char :=
  ['"', '[', ']', '\x7b', '\x7d', ' ', '\t', '\n', '\r', '\uFEFF']

theorem Scalar.exists_cons {s : List Char} {a : Atom} (h : Scalar s a) :
    ∃ c rest, s = c :: rest ∧ ∀ d ∈ delimiters, c ≠ d := by
  have hdigit (c : Char) (hc : c.isDigit = true) : ∀ d ∈ delimiters, c ≠ d := fun d hd =>
    ne_of_isDigit hc ((by simp [delimiters] : ∀ d ∈ delimiters, d.isDigit = false) d hd)
  cases h with
  | @word word a listed =>
    have hwords : ∀ entry ∈ words, entry.1.toList ≠ [] ∧
        ∀ c ∈ entry.1.toList.head?, ∀ d ∈ delimiters, c ≠ d := by simp [words, delimiters]
    obtain ⟨hne, hhead⟩ := hwords _ listed
    obtain ⟨c, rest, hword⟩ := List.exists_cons_of_ne_nil hne
    exact ⟨c, rest, hword, hhead c (hword ▸ rfl)⟩
  | number isNumber =>
    obtain ⟨c, tail, rfl, hc⟩ := isNumber.exists_cons
    exact ⟨c, tail, rfl, hdigit c hc⟩
  | negative isNumber => exact ⟨'-', _, rfl, by simp [delimiters]⟩

theorem Scalar.opens {s : List Char} {a : Atom} (h : Scalar s a) : Opens s := by
  obtain ⟨c, rest, rfl, hc⟩ := h.exists_cons
  have hne {d : Char} (hd : d ∈ delimiters) : c ≠ d := hc d hd
  refine ⟨c, rest, rfl, ?_, hne (by decide), hne (by decide), hne (by decide)⟩
  simp only [isBlank, Bool.or_eq_false_iff, beq_eq_false_iff_ne]
  exact ⟨⟨⟨hne (by decide), hne (by decide)⟩, hne (by decide)⟩, hne (by decide)⟩

theorem Writes.opens {s : List Char} {piece : Piece} (h : Writes s piece) : Opens s := by
  induction h with
  | text | member => exact ⟨'"', _, rfl, by decide⟩
  | scalar token => exact token.opens
  | noItems | list => exact ⟨'[', _, rfl, by decide⟩
  | noMembers | map => exact ⟨'\x7b', _, rfl, by decide⟩
  | lastItem _ _ ih => exact ih.append _
  | item _ _ _ _ ih _ => exact ih.append _
  | lastMember _ _ ih => exact ih.append _
  | moreMembers _ _ _ _ ih _ => exact ih.append _

/-! ## What the grammar allows is read -/

/-- How the reader answers to a text that starts with a piece. -/
def IsRead (s : List Char) : Piece → Prop
  | .value v => ∀ n rest, 2 * s.length ≤ n → Follows rest →
      readValue n (s ++ rest) = .ok (v, rest)
  | .items items => ∀ n rest, 2 * s.length ≤ n → readItems n (s ++ rest) = .ok (items, rest)
  | .member entry => ∀ n rest, 2 * s.length ≤ n → Follows rest →
      readMembers (n + 1) (s ++ rest) = match skipBlanks rest with
        | '\x7d' :: rest => .ok ([entry], rest)
        | ',' :: rest => do
          let (entries, rest) ← readMembers n (skipBlanks rest)
          return (entry :: entries, rest)
        | rest => fault .comma rest
  | .members entries => ∀ n rest, 2 * s.length ≤ n →
      readMembers n (s ++ rest) = .ok (entries, rest)

theorem isRead_scalar {s : List Char} {a : Atom} (token : Scalar s a) :
    IsRead s (.value (.atom a)) := by
  intro n rest hn hrest
  have hread := readScalar?_append token hrest
  obtain ⟨c, tail, rfl, hc⟩ := token.exists_cons
  obtain ⟨m, rfl⟩ : ∃ m, n = m + 1 := ⟨n - 1, by simp at hn; omega⟩
  have hquote : c ≠ '"' := hc _ (by decide)
  have hbracket : c ≠ '[' := hc _ (by decide)
  have hbrace : c ≠ '\x7b' := hc _ (by decide)
  rw [List.cons_append] at hread ⊢
  rw [readValue.eq_def]
  split <;> simp_all

theorem isRead_list {blanks s : List Char} {items : List Value} (hblanks : Blanks blanks)
    (hopens : Opens s) (parts : IsRead s (.items items)) :
    IsRead ('[' :: (blanks ++ s)) (.value (.list items)) := by
  intro n rest hn _
  obtain ⟨m, rfl⟩ : ∃ m, n = m + 1 := ⟨n - 1, by simp at hn; omega⟩
  have hparts := parts m rest (by simp at hn; omega)
  rw [List.cons_append, List.append_assoc, readValue, hopens.skipBlanks_eq hblanks]
  obtain ⟨c, tail, rfl, -, hbracket, -⟩ := hopens
  rw [List.cons_append] at hparts ⊢
  split
  · rename_i h
    exact absurd (List.cons.inj h).1 hbracket
  · rw [hparts]
    rfl

theorem isRead_map {blanks s : List Char} {entries : List (Atom × Value)}
    (hblanks : Blanks blanks) (hopens : Opens s) (parts : IsRead s (.members entries)) :
    IsRead ('\x7b' :: (blanks ++ s)) (.value (.map (Entries.ofPairs entries))) := by
  intro n rest hn _
  obtain ⟨m, rfl⟩ : ∃ m, n = m + 1 := ⟨n - 1, by simp at hn; omega⟩
  have hparts := parts m rest (by simp at hn; omega)
  rw [List.cons_append, List.append_assoc, readValue, hopens.skipBlanks_eq hblanks]
  obtain ⟨c, tail, rfl, -, -, hbrace, -⟩ := hopens
  rw [List.cons_append] at hparts ⊢
  split
  · rename_i h
    exact absurd (List.cons.inj h).1 hbrace
  · rw [hparts]
    rfl

/-- An item is read, and what comes next decides how the list goes on. -/
theorem readItems_value {s : List Char} {v : Value} (h : IsRead s (.value v)) {n : Nat}
    (hn : 2 * s.length ≤ n) {rest : List Char} (hrest : Follows rest) :
    readItems (n + 1) (s ++ rest) = match skipBlanks rest with
      | ']' :: rest => .ok ([v], rest)
      | ',' :: rest => do
        let (items, rest) ← readItems n (skipBlanks rest)
        return (v :: items, rest)
      | rest => fault .comma rest := by
  rw [readItems, h n rest hn hrest]
  rfl

theorem isRead_item {s t before after : List Char} {v : Value} {items : List Value}
    (hv : IsRead s (.value v)) (hbefore : Blanks before) (hafter : Blanks after) (hopens : Opens t)
    (hitems : IsRead t (.items items)) :
    IsRead (s ++ (before ++ ',' :: (after ++ t))) (.items (v :: items)) := by
  intro n rest hn
  obtain ⟨m, rfl⟩ : ∃ m, n = m + 1 := ⟨n - 1, by simp at hn; omega⟩
  have hmore := hitems m rest (by simp at hn; omega)
  have hfollows : Follows (before ++ ',' :: (after ++ (t ++ rest))) :=
    hbefore.follows (follows_cons _ (by decide))
  simp only [List.append_assoc, List.cons_append]
  rw [readItems_value hv (by simp at hn; omega) hfollows, skipBlanks_before hbefore (by decide)]
  simp only
  rw [hopens.skipBlanks_eq hafter, hmore]
  rfl

theorem isRead_member {raw key before after s : List Char} {v : Value} (body : Body raw key)
    (hbefore : Blanks before) (hafter : Blanks after) (hopens : Opens s)
    (hv : IsRead s (.value v)) : IsRead ('"' :: (raw ++ (before ++ ':' :: (after ++ s))))
      (.member (.str (String.ofList key), v)) := by
  intro n rest hn hrest
  have hvalue := hv n rest (by simp at hn; omega) hrest
  simp only [List.append_assoc, List.cons_append]
  rw [readMembers, readString_body body]
  simp only [bind, Except.bind]
  rw [skipBlanks_before hbefore (by decide)]
  simp only
  rw [hopens.skipBlanks_eq hafter, hvalue]
  rfl

theorem isRead_moreMembers {s t before after : List Char} {entry : Atom × Value}
    {entries : List (Atom × Value)} (hentry : IsRead s (.member entry)) (hbefore : Blanks before)
    (hafter : Blanks after) (hopens : Opens t) (hentries : IsRead t (.members entries)) :
    IsRead (s ++ (before ++ ',' :: (after ++ t))) (.members (entry :: entries)) := by
  intro n rest hn
  obtain ⟨m, rfl⟩ : ∃ m, n = m + 1 := ⟨n - 1, by simp at hn; omega⟩
  have hmore := hentries m rest (by simp at hn; omega)
  have hfollows : Follows (before ++ ',' :: (after ++ (t ++ rest))) :=
    hbefore.follows (follows_cons _ (by decide))
  simp only [List.append_assoc, List.cons_append]
  rw [hentry m _ (by simp at hn; omega) hfollows, skipBlanks_before hbefore (by decide)]
  simp only
  rw [hopens.skipBlanks_eq hafter, hmore]
  rfl

theorem Writes.isRead {s : List Char} {piece : Piece} (h : Writes s piece) : IsRead s piece := by
  -- Only behind a value does it matter what follows: items and members end with their bracket.
  induction h with
  | text body =>
    intro n rest hn _
    obtain ⟨m, rfl⟩ : ∃ m, n = m + 1 := ⟨n - 1, by simp at hn; omega⟩
    rw [List.cons_append, readValue, readString_body body]
    rfl
  | scalar token => exact isRead_scalar token
  | noItems hblanks | noMembers hblanks =>
    intro n rest hn _
    obtain ⟨m, rfl⟩ : ∃ m, n = m + 1 := ⟨n - 1, by simp at hn; omega⟩
    rw [List.cons_append, List.append_assoc, readValue, skipBlanks_append hblanks]
    rfl
  | list hblanks parts ih => exact isRead_list hblanks parts.opens ih
  | map hblanks parts ih => exact isRead_map hblanks parts.opens ih
  | lastItem value hblanks ih =>
    intro n rest hn
    obtain ⟨m, rfl⟩ : ∃ m, n = m + 1 := ⟨n - 1, by simp at hn; omega⟩
    rw [List.append_assoc, List.append_assoc, List.singleton_append,
      readItems_value ih (by simp at hn; omega) (hblanks.follows (follows_cons _ (by decide))),
      skipBlanks_append hblanks]
    rfl
  | item value hbefore hafter more ih ihmore => exact isRead_item ih hbefore hafter more.opens ihmore
  | member body hbefore hafter value ih => exact isRead_member body hbefore hafter value.opens ih
  | lastMember first hblanks ih =>
    intro n rest hn
    obtain ⟨m, rfl⟩ : ∃ m, n = m + 1 := ⟨n - 1, by simp at hn; omega⟩
    rw [List.append_assoc, List.append_assoc, List.singleton_append,
      ih m _ (by simp at hn; omega) (hblanks.follows (follows_cons _ (by decide))),
      skipBlanks_append hblanks]
    rfl
  | moreMembers first hbefore hafter more ih ihmore =>
    exact isRead_moreMembers ih hbefore hafter more.opens ihmore

/-! ## What is read follows the grammar -/

/-- What is read within a bound on the depth of calls has been written by the grammar. -/
structure ReadsWritten (n : Nat) : Prop where
  value : ∀ {s v rest}, readValue n s = .ok (v, rest) →
    ∃ text, s = text ++ rest ∧ Writes text (.value v)
  items : ∀ {s items rest}, readItems n s = .ok (items, rest) →
    ∃ text, s = text ++ rest ∧ Writes text (.items items)
  members : ∀ {s entries rest}, readMembers n s = .ok (entries, rest) →
    ∃ text, s = text ++ rest ∧ Writes text (.members entries)

theorem writes_of_readValue {n : Nat} (ih : ReadsWritten n) {s rest : List Char} {v : Value}
    (h : readValue (n + 1) s = .ok (v, rest)) :
    ∃ text, s = text ++ rest ∧ Writes text (.value v) := by
  rw [readValue.eq_def] at h
  split at h
  · cases h
  · cases h
  · obtain ⟨⟨text, after⟩, hread, h⟩ := Computation.bind_eq_ok h
    cases h
    obtain ⟨raw, chars, rfl, hbody, rfl⟩ := exists_body_of_readString hread
    exact ⟨'"' :: raw, rfl, .text hbody⟩
  · rename_i m behind hm
    cases hm
    obtain ⟨blanks, hbehind, hblanks⟩ := exists_blanks behind
    split at h
    · rename_i after hskip
      cases h
      rw [hskip] at hbehind
      exact ⟨'[' :: (blanks ++ [']']), by simp [hbehind], .noItems hblanks⟩
    · obtain ⟨⟨items, after⟩, hitems, h⟩ := Computation.bind_eq_ok h
      cases h
      obtain ⟨text, hskip, parts⟩ := ih.items hitems
      rw [hskip] at hbehind
      exact ⟨'[' :: (blanks ++ text), by simp [hbehind], .list hblanks parts⟩
  · rename_i m behind hm
    cases hm
    obtain ⟨blanks, hbehind, hblanks⟩ := exists_blanks behind
    split at h
    · rename_i after hskip
      cases h
      rw [hskip] at hbehind
      exact ⟨'\x7b' :: (blanks ++ ['\x7d']), by simp [hbehind], .noMembers hblanks⟩
    · obtain ⟨⟨entries, after⟩, hentries, h⟩ := Computation.bind_eq_ok h
      cases h
      obtain ⟨text, hskip, parts⟩ := ih.members hentries
      rw [hskip] at hbehind
      exact ⟨'\x7b' :: (blanks ++ text), by simp [hbehind], .map hblanks parts⟩
  · split at h
    · rename_i hscalar
      cases h
      obtain ⟨text, rfl, token⟩ := exists_scalar_of_readScalar? hscalar
      exact ⟨text, rfl, .scalar token⟩
    · cases h

theorem writes_of_readItems {n : Nat} (ih : ReadsWritten n) {s rest : List Char}
    {items : List Value} (h : readItems (n + 1) s = .ok (items, rest)) :
    ∃ text, s = text ++ rest ∧ Writes text (.items items) := by
  rw [readItems] at h
  obtain ⟨⟨v, behind⟩, hvalue, h⟩ := Computation.bind_eq_ok h
  obtain ⟨text, hs, value⟩ := ih.value hvalue
  obtain ⟨before, hbehind, hbefore⟩ := exists_blanks behind
  rw [hs]
  dsimp only at h
  split at h
  · rename_i after hskip
    cases h
    rw [hskip] at hbehind
    exact ⟨text ++ (before ++ [']']), by simp [hbehind], .lastItem value hbefore⟩
  · rename_i next hskip
    obtain ⟨⟨more, after⟩, hitems, h⟩ := Computation.bind_eq_ok h
    cases h
    obtain ⟨afterComma, hnext, hafter⟩ := exists_blanks next
    obtain ⟨textMore, hmore, parts⟩ := ih.items hitems
    rw [hmore] at hnext
    rw [hskip, hnext] at hbehind
    exact ⟨text ++ (before ++ ',' :: (afterComma ++ textMore)), by simp [hbehind],
      .item value hbefore hafter parts⟩
  · cases h

theorem writes_of_readMembers {n : Nat} (ih : ReadsWritten n) {s rest : List Char}
    {entries : List (Atom × Value)} (h : readMembers (n + 1) s = .ok (entries, rest)) :
    ∃ text, s = text ++ rest ∧ Writes text (.members entries) := by
  rw [readMembers.eq_def] at h
  split at h
  · cases h
  · rename_i m behind hm
    cases hm
    obtain ⟨⟨key, afterKey⟩, hkey, h⟩ := Computation.bind_eq_ok h
    obtain ⟨raw, chars, hstring, hbody, hname⟩ := exists_body_of_readString hkey
    rw [hstring]
    rw [hname] at h
    obtain ⟨beforeColon, hafterKey, hbeforeColon⟩ := exists_blanks afterKey
    dsimp only at h
    split at h
    · rename_i afterColon hcolon
      obtain ⟨⟨v, behind⟩, hvalue, h⟩ := Computation.bind_eq_ok h
      obtain ⟨blanks, hafterColon, hblanks⟩ := exists_blanks afterColon
      obtain ⟨text, hskip, value⟩ := ih.value hvalue
      rw [hskip] at hafterColon
      rw [hcolon, hafterColon] at hafterKey
      have first := Writes.member hbody hbeforeColon hblanks value
      obtain ⟨before, hbehind, hbefore⟩ := exists_blanks behind
      dsimp only at h
      split at h
      · rename_i after hclose
        cases h
        rw [hclose] at hbehind
        exact ⟨_, by simp [hafterKey, hbehind], .lastMember first hbefore⟩
      · rename_i next hcomma
        obtain ⟨⟨more, after⟩, hmembers, h⟩ := Computation.bind_eq_ok h
        cases h
        obtain ⟨afterComma, hnext, hafter⟩ := exists_blanks next
        obtain ⟨textMore, hmore, parts⟩ := ih.members hmembers
        rw [hmore] at hnext
        rw [hcomma, hnext] at hbehind
        exact ⟨_, by simp [hafterKey, hbehind], .moreMembers first hbefore hafter parts⟩
      · cases h
    · cases h
  · cases h

theorem readsWritten (n : Nat) : ReadsWritten n := by
  induction n with
  | zero => exact ⟨fun h => (by cases h), fun h => (by cases h), fun h => (by cases h)⟩
  | succ n ih => exact ⟨writes_of_readValue ih, writes_of_readItems ih, writes_of_readMembers ih⟩

/-! ## Whole texts -/

/-- The reader accepts exactly the texts of the grammar, and reads what they write. -/
theorem parseChars_eq_ok_iff (s : List Char) (v : Value) :
    parseChars s = .ok v ↔ IsJson s v := by
  constructor
  · intro h
    unfold parseChars at h
    dsimp only at h
    split at h
    · cases h
    · obtain ⟨⟨w, behind⟩, hvalue, h⟩ := Computation.bind_eq_ok h
      obtain ⟨before, hs, hbefore⟩ := exists_blanks s
      obtain ⟨text, hstart, value⟩ := (readsWritten _).value hvalue
      obtain ⟨after, hbehind, hafter⟩ := exists_blanks behind
      rw [hstart] at hs
      dsimp only at h
      split at h
      · rename_i hend
        cases h
        rw [hend, List.append_nil] at hbehind
        exact ⟨before, text, after, by rw [hs, hbehind], hbefore, hafter, value⟩
      · cases h
  · rintro ⟨before, text, after, rfl, hbefore, hafter, value⟩
    have hmark := (value.opens.append after).not_marked hbefore
    have hstart := value.opens.skipBlanks_eq hbefore after
    have hafter' : Follows after := by
      have := hafter.follows follows_nil
      rwa [List.append_nil] at this
    have hend : skipBlanks after = [] := by
      have := skipBlanks_append hafter []
      rwa [List.append_nil] at this
    -- The reader allows for two calls a character, blanks at the end included.
    have hread := value.isRead (2 * (text ++ after).length + 2) after (by simp; omega) hafter'
    simp only [parseChars, hmark, Bool.false_eq_true, if_false, hstart, hread, hend, bind,
      Except.bind, pure, Except.pure]

theorem parse_eq_ok_iff (text : String) (v : Value) :
    parse text = .ok v ↔ IsJson text.toList v := by
  rw [← parseChars_eq_ok_iff, parse]
  cases parseChars text.toList <;> simp

end FlowTemplate.Json
