import TiProxy.Net.Interface

/-!
# The keyword lexer and the sensitive-statement filter

`pkg/util/lex`: `Lexer.NextToken` scans a SQL text for the next identifier or
keyword, upper-cased, skipping comments and quoted strings; `IsSensitiveSQL` reads
the first one or two keywords and reports statements that may carry a password or a
storage URL, and `IsReadOnly` reports statements a read-only replay may run.  Traffic
capture drops the `COM_QUERY` statements `IsSensitiveSQL` reports.

A lexer is the text from its current index: `NextToken` returns the token and the
text after the index where it stopped.  The Go loop looks one byte ahead for `--`,
`/*` and `*/`; the model matches those two bytes in its patterns.  The quote
states differ only in their quote byte, so they are one state with the byte as its
argument.  Bytes are written as numbers: 10 is a newline, 32 a space, 34 `"`,
39 a single quote, 42 `*`, 45 `-`, 47 `/`, 92 a backslash and 95 `_`.

**Results.**
* `NextToken_word`: a word of identifier bytes followed by a delimiter is the next
  token, upper-cased.
* `isSensitiveSQL_sensitiveKeywords`: a statement that starts with the words of an
  entry of `sensitiveKeywords` is sensitive.
* `isSensitiveSQL_setSessionStates`: a statement that starts with
  `SET SESSION_STATES` is not.
* `isSensitiveSQL_blockComment_createUser`: a comment between `CREATE` and `USER`
  glues them into one token, so the filter lets the statement through, while MySQL
  reads `CREATE USER` (`mysqlKeywords`, the words as MySQL reads them).
* `isReadOnly_hashComment`: behind a `#SELECT` line, which MySQL skips as a comment,
  every statement is read-only to `IsReadOnly`.
-/

namespace TiProxy
namespace Lex

open Net

/-- Where `NextToken` is: outside comments and strings, in a `--` comment, in a
comment between slash-star and star-slash, or in a string opened by `quote`. -/
inductive LexState where
  | plain
  | singleLineComment
  | multiLineComment
  | inQuote (quote : UInt8)
deriving DecidableEq, Repr

/-- A lower-case ASCII letter, which `NextToken` upper-cases. -/
def isLower
    (c : UInt8) : Bool :=
  97 ≤ c && c ≤ 122

/-- An upper-case ASCII letter or an underscore. -/
def isUpperOrUnderscore
    (c : UInt8) : Bool :=
  (65 ≤ c && c ≤ 90) || c == 95

/-- The loop of `NextToken` from the current index, with the token read so far. -/
def nextTokenLoop : LexState → List UInt8 → List UInt8 → List UInt8 × List UInt8
  | _, token, [] => (token, [])
  | .singleLineComment, token, c :: rest =>
      nextTokenLoop (if c = 10 then .plain else .singleLineComment) token rest
  | .multiLineComment, token, 42 :: 47 :: rest => nextTokenLoop .plain token rest
  | .multiLineComment, token, _ :: rest => nextTokenLoop .multiLineComment token rest
  | .inQuote _, token, [92] => (token, [])
  | .inQuote quote, token, 92 :: _ :: rest => nextTokenLoop (.inQuote quote) token rest
  | .inQuote quote, token, c :: rest =>
      nextTokenLoop (if c = quote then .plain else .inQuote quote) token rest
  | .plain, token, 45 :: 45 :: rest => nextTokenLoop .singleLineComment token rest
  | .plain, token, 47 :: 42 :: rest => nextTokenLoop .multiLineComment token rest
  | .plain, token, c :: rest =>
      if c = 39 ∨ c = 34 then nextTokenLoop (.inQuote c) token rest
      else if isLower c then nextTokenLoop .plain (token ++ [c - 97 + 65]) rest
      else if isUpperOrUnderscore c then nextTokenLoop .plain (token ++ [c]) rest
      else if token ≠ [] then (token, rest)
      else nextTokenLoop .plain token rest

/-- `Lexer.NextToken`: the next upper-cased identifier or keyword, empty at the end
of the text, and the text after it. -/
def NextToken
    (lexer : List UInt8) : List UInt8 × List UInt8 :=
  nextTokenLoop .plain [] lexer

/-- `sensitiveKeywords`: statements that carry passwords or storage URLs, or are
not supported. -/
def sensitiveKeywords : List (List (List UInt8)) :=
  [["CREATE", "USER"], ["ALTER", "USER"], ["SET", "PASSWORD"], ["GRANT"], ["BACKUP"],
    ["RESTORE"], ["IMPORT"], ["LOAD", "DATA"]].map (List.map asciiBytes)

/-- The loop of `IsSensitiveSQL` over the keyword list.  The loop variable
`keyword` is overwritten by the second token when the first one matches an entry's
first word, as in the source. -/
def matchKeywords : List (List (List UInt8)) → List UInt8 → List UInt8 → Bool
  | [], _, _ => false
  | [] :: kws, keyword, lexer => matchKeywords kws keyword lexer
  | (first :: second) :: kws, keyword, lexer =>
      if keyword ≠ first then matchKeywords kws keyword lexer
      else
        match second with
        | [] => true
        | next :: _ =>
            let (keyword, lexer) := NextToken lexer
            if keyword = next then true else matchKeywords kws keyword lexer

/-- `IsSensitiveSQL`. -/
def IsSensitiveSQL
    (sql : List UInt8) : Bool :=
  let (keyword, lexer) := NextToken sql
  if keyword = [] then false else matchKeywords sensitiveKeywords keyword lexer

/-- `readOnlyKeywords`: the statements a read-only replay lets through. -/
def readOnlyKeywords : List (List UInt8) :=
  ["SELECT", "SHOW", "WITH", "SET", "USE", "DESC", "DESCRIBE", "TABLE", "DO"].map asciiBytes

/-- `IsReadOnly`: the first keyword is one of `readOnlyKeywords`. -/
def IsReadOnly
    (sql : List UInt8) : Bool :=
  let (keyword, _) := NextToken sql
  if keyword = [] then false else readOnlyKeywords.any (fun kw => keyword == kw)

/-! ### Words -/

/-- A byte that is part of an identifier. -/
def isIdentByte
    (c : UInt8) : Bool :=
  isLower c || isUpperOrUnderscore c

/-- How `NextToken` stores an identifier byte. -/
def toUpper
    (c : UInt8) : UInt8 :=
  if isLower c then c - 97 + 65 else c

/-- A byte that ends a token and opens nothing: not part of an identifier, not a
quote, and not the first byte of a comment marker. -/
def isDelimiter
    (c : UInt8) : Bool :=
  !isIdentByte c && c != 39 && c != 34 && c != 45 && c != 47

/-- An identifier byte opens no comment and no string. -/
theorem isIdentByte_ne
    {c : UInt8}
    (hc : isIdentByte c) :
    c ≠ 45 ∧ c ≠ 47 ∧ c ≠ 39 ∧ c ≠ 34 := by
  simp only [isIdentByte, isLower, isUpperOrUnderscore, Bool.or_eq_true, Bool.and_eq_true,
    decide_eq_true_eq, beq_iff_eq] at hc
  grind

/-- The loop reads a word of identifier bytes into the token. -/
theorem nextTokenLoop_word
    (word : List UInt8)
    (hword : ∀ c ∈ word, isIdentByte c) :
    ∀ token rest,
      nextTokenLoop .plain token (word ++ rest) = nextTokenLoop .plain (token ++ word.map toUpper) rest := by
  induction word with
  | nil =>
      intro token rest
      simp
  | cons c word ih =>
      intro token rest
      have hc : isIdentByte c := hword c (by simp)
      obtain ⟨h45, h47, h39, h34⟩ := isIdentByte_ne hc
      have hstep : nextTokenLoop .plain token (c :: (word ++ rest)) =
          nextTokenLoop .plain (token ++ [toUpper c]) (word ++ rest) := by
        rw [nextTokenLoop.eq_def]
        cases hlower : isLower c <;>
          simp_all [isIdentByte, toUpper]
      rw [List.cons_append, hstep, ih (fun c' hc' => hword c' (by simp [hc']))]
      simp

/-- A delimiter ends a token read so far; the lexer stops after it. -/
theorem nextTokenLoop_delimiter
    {sep : UInt8}
    (hsep : isDelimiter sep)
    {token : List UInt8}
    (htoken : token ≠ [])
    (rest : List UInt8) :
    nextTokenLoop .plain token (sep :: rest) = (token, rest) := by
  simp only [isDelimiter, isIdentByte, Bool.and_eq_true, Bool.not_eq_true', Bool.or_eq_false_iff,
    bne_iff_ne, ne_eq] at hsep
  obtain ⟨⟨⟨⟨⟨hlower, hupper⟩, h39⟩, h34⟩, h45⟩, h47⟩ := hsep
  rw [nextTokenLoop.eq_def]
  simp_all

/-- Before any token, a delimiter is skipped. -/
theorem nextTokenLoop_skip
    {sep : UInt8}
    (hsep : isDelimiter sep)
    (rest : List UInt8) :
    nextTokenLoop .plain [] (sep :: rest) = nextTokenLoop .plain [] rest := by
  simp only [isDelimiter, isIdentByte, Bool.and_eq_true, Bool.not_eq_true', Bool.or_eq_false_iff,
    bne_iff_ne, ne_eq] at hsep
  obtain ⟨⟨⟨⟨⟨hlower, hupper⟩, h39⟩, h34⟩, h45⟩, h47⟩ := hsep
  rw [nextTokenLoop.eq_def]
  simp_all

/-- A comment opened by slash-star with no star inside is skipped whole, and the
token read before it goes on after it. -/
theorem nextTokenLoop_blockComment
    (body : List UInt8)
    (hbody : 42 ∉ body)
    (token rest : List UInt8) :
    nextTokenLoop .multiLineComment token (body ++ 42 :: 47 :: rest) =
      nextTokenLoop .plain token rest := by
  induction body with
  | nil => rw [List.nil_append, nextTokenLoop.eq_3]
  | cons c body ih =>
      have hc : c ≠ 42 := fun h => hbody (h ▸ List.mem_cons_self)
      have hbody' : 42 ∉ body := fun h => hbody (List.mem_cons_of_mem c h)
      -- a byte that is not a star stays inside the comment
      rw [List.cons_append, nextTokenLoop.eq_4 _ _ _ (fun _ h _ => hc h)]
      exact ih hbody'

/-- A word of identifier bytes followed by a delimiter is the next token,
upper-cased; the lexer stops after the delimiter. -/
theorem NextToken_word
    (word : List UInt8)
    (hword : ∀ c ∈ word, isIdentByte c)
    (hne : word ≠ [])
    {sep : UInt8}
    (hsep : isDelimiter sep)
    (rest : List UInt8) :
    NextToken (word ++ sep :: rest) = (word.map toUpper, rest) := by
  unfold NextToken
  rw [nextTokenLoop_word word hword [] (sep :: rest), List.nil_append,
    nextTokenLoop_delimiter hsep (by simpa using hne)]

/-- Upper-case letters and underscores are identifier bytes. -/
theorem identBytes_of_upper
    {word : List UInt8}
    (hword : word.all isUpperOrUnderscore) :
    ∀ c ∈ word, isIdentByte c := by
  intro c hc
  simp [isIdentByte, List.all_eq_true.mp hword c hc]

/-- Upper-casing leaves upper-case letters and underscores as they are. -/
theorem map_toUpper_of_upper
    {word : List UInt8}
    (hword : word.all isUpperOrUnderscore) :
    word.map toUpper = word := by
  conv => rhs; rw [← List.map_id word]
  refine List.map_congr_left (fun c hc => ?_)
  have hnot : isLower c = false := by
    have := List.all_eq_true.mp hword c hc
    simp only [isLower, isUpperOrUnderscore, Bool.or_eq_true, Bool.and_eq_true,
      decide_eq_true_eq, beq_iff_eq] at this ⊢
    grind
  simp [toUpper, hnot]

/-- A word of upper-case letters and underscores followed by a delimiter is the
next token as it stands. -/
theorem NextToken_upperWord
    {word : List UInt8}
    (hword : word.all isUpperOrUnderscore)
    (hne : word ≠ [])
    {sep : UInt8}
    (hsep : isDelimiter sep)
    (rest : List UInt8) :
    NextToken (word ++ sep :: rest) = (word, rest) := by
  rw [NextToken_word word (identBytes_of_upper hword) hne hsep rest, map_toUpper_of_upper hword]

/-! ### The filter -/

/-- A statement that starts with `SET SESSION_STATES`, as the session-restoring
statement of traffic capture does, is not sensitive: its second token is not
`PASSWORD`, and the overwritten keyword matches no later entry. -/
theorem isSensitiveSQL_setSessionStates
    (rest : List UInt8) :
    IsSensitiveSQL (asciiBytes "SET SESSION_STATES " ++ rest) = false := by
  have hsplit : asciiBytes "SET SESSION_STATES " ++ rest =
      asciiBytes "SET" ++ 32 :: (asciiBytes "SESSION_STATES" ++ 32 :: rest) := by
    have h : asciiBytes "SET SESSION_STATES " =
        asciiBytes "SET" ++ 32 :: (asciiBytes "SESSION_STATES" ++ [32]) := by
      decide
    simp [h]
  have hset : NextToken (asciiBytes "SET" ++ 32 :: (asciiBytes "SESSION_STATES" ++ 32 :: rest)) =
      (asciiBytes "SET", asciiBytes "SESSION_STATES" ++ 32 :: rest) :=
    NextToken_upperWord (by decide) (by decide) (by decide) _
  have hstates : NextToken (asciiBytes "SESSION_STATES" ++ 32 :: rest) =
      (asciiBytes "SESSION_STATES", rest) :=
    NextToken_upperWord (by decide) (by decide) (by decide) rest
  rw [hsplit, IsSensitiveSQL, hset]
  simp +decide [sensitiveKeywords, matchKeywords, hstates]

/-- The words of every entry of `sensitiveKeywords` are upper-case words, and no
entry is empty. -/
theorem sensitiveKeywords_words
    {kw : List (List UInt8)}
    (hkw : kw ∈ sensitiveKeywords) :
    kw ≠ [] ∧ ∀ w ∈ kw, w.all isUpperOrUnderscore ∧ w ≠ [] := by
  have hall : sensitiveKeywords.all (fun kw =>
      !kw.isEmpty && kw.all (fun w => w.all isUpperOrUnderscore && !w.isEmpty)) := by
    decide
  have h := List.all_eq_true.mp hall kw hkw
  simp only [Bool.and_eq_true, List.isEmpty_eq_false_iff, List.all_eq_true,
    Bool.not_eq_eq_eq_not, Bool.not_true] at h
  exact ⟨h.1, fun w hw => ⟨List.all_eq_true.mpr (h.2 w hw).1, (h.2 w hw).2⟩⟩

/-- No two entries of `sensitiveKeywords` start with the same word. -/
theorem sensitiveKeywords_heads_nodup :
    (sensitiveKeywords.map List.head?).Nodup := by
  decide

/-- `matchKeywords` accepts at the first entry that starts with the keyword, when the
entry has one word or the next token is its second one. -/
theorem matchKeywords_entry
    {pre post : List (List (List UInt8))}
    {first : List UInt8}
    {second : List (List UInt8)}
    {lexer : List UInt8}
    (hpre : ∀ e ∈ pre, e.head? ≠ some first)
    (hnext : ∀ next ∈ second.head?, (NextToken lexer).1 = next) :
    matchKeywords (pre ++ (first :: second) :: post) first lexer = true := by
  induction pre with
  | nil =>
      cases second with
      | nil => simp [matchKeywords]
      | cons next more =>
          rcases hN : NextToken lexer with ⟨keyword, lexer'⟩
          have hk : keyword = next := by simpa [hN] using hnext next rfl
          simp [matchKeywords, hN, hk]
  | cons e pre ih =>
      have ih := ih (fun e' he' => hpre e' (List.mem_cons_of_mem e he'))
      cases e with
      | nil => simpa [matchKeywords] using ih
      | cons f s =>
          have hf : first ≠ f := fun h => hpre (f :: s) (by simp) (by simp [h])
          simpa [matchKeywords, hf] using ih

/-- A statement that starts with the words of an entry of `sensitiveKeywords`, each
followed by a space, is sensitive. -/
theorem isSensitiveSQL_sensitiveKeywords
    {kw : List (List UInt8)}
    (hkw : kw ∈ sensitiveKeywords)
    (rest : List UInt8) :
    IsSensitiveSQL ((kw.map (· ++ [32])).flatten ++ rest) = true := by
  obtain ⟨hne, hwords⟩ := sensitiveKeywords_words hkw
  obtain ⟨pre, post, hsplit⟩ := List.append_of_mem hkw
  obtain ⟨first, second, rfl⟩ := List.exists_cons_of_ne_nil hne
  -- no earlier entry starts with the same word, so `matchKeywords` reaches this one
  have hpre : ∀ e ∈ pre, e.head? ≠ some first := by
    have hnodup := sensitiveKeywords_heads_nodup
    rw [hsplit, List.map_append, List.map_cons] at hnodup
    intro e he
    exact (List.nodup_append.mp hnodup).2.2 _ (List.mem_map_of_mem he) _ List.mem_cons_self
  have hnext : ∀ next ∈ second.head?,
      (NextToken ((second.map (· ++ [32])).flatten ++ rest)).1 = next := by
    intro next hn
    cases second with
    | nil => simp at hn
    | cons w more =>
        have hw : w = next := by simpa using hn
        obtain ⟨hup, hwne⟩ := hwords w (by simp)
        simp only [List.map_cons, List.flatten_cons, List.append_assoc,
      List.cons_append]
        rw [NextToken_upperWord hup hwne (by decide)]
        exact hw
  obtain ⟨hup, hfne⟩ := hwords first (by simp)
  simp only [List.map_cons, List.flatten_cons, List.append_assoc,
      List.cons_append]
  rw [IsSensitiveSQL, NextToken_upperWord hup hfne (by decide)]
  simp only [hfne, if_false]
  rw [hsplit]
  exact matchKeywords_entry hpre hnext

example : IsSensitiveSQL (asciiBytes "grant all on *.* to u") = true := by decide

example : IsSensitiveSQL (asciiBytes "select 1 /* set password */") = false := by decide

/-! ### The statement as MySQL reads it

What the filters are meant to agree with: the first words of a statement as MySQL's
lexer reads them.  Whitespace and three comment styles separate words: `--` followed
by whitespace, `#`, each to the end of the line, and slash-star to star-slash; keywords
are read without regard to case.  A word here is a run of letters and underscores,
which every keyword of the filters is.  This is a statement of intent, not code of
the proxy. -/

/-- MySQL's whitespace: space, tab, newline, vertical tab, form feed, carriage return. -/
def isSpace
    (c : UInt8) : Bool :=
  c == 32 || (9 ≤ c && c ≤ 13)

/-- Where MySQL is between words: outside comments, in a line comment, or in a block
comment. -/
inductive SepState where
  | between
  | lineComment
  | blockComment
deriving DecidableEq, Repr

/-- The text from the next word on, past whitespace and comments. -/
def skipSeparators : SepState → List UInt8 → List UInt8
  | _, [] => []
  | .lineComment, c :: rest => skipSeparators (if c = 10 then .between else .lineComment) rest
  | .blockComment, 42 :: 47 :: rest => skipSeparators .between rest
  | .blockComment, _ :: rest => skipSeparators .blockComment rest
  | .between, 35 :: rest => skipSeparators .lineComment rest
  | .between, 45 :: 45 :: c :: rest =>
      if isSpace c then skipSeparators (if c = 10 then .between else .lineComment) rest
      else 45 :: 45 :: c :: rest
  | .between, 47 :: 42 :: rest => skipSeparators .blockComment rest
  | .between, c :: rest => if isSpace c then skipSeparators .between rest else c :: rest

/-- The next word as MySQL reads it, upper-cased, and the text after it. -/
def mysqlWord
    (sql : List UInt8) : List UInt8 × List UInt8 :=
  let s := skipSeparators .between sql
  ((s.takeWhile isIdentByte).map toUpper, s.dropWhile isIdentByte)

/-- The first two words of a statement as MySQL reads them. -/
def mysqlKeywords
    (sql : List UInt8) : List UInt8 × List UInt8 :=
  let (first, rest) := mysqlWord sql
  (first, (mysqlWord rest).1)

theorem skipSeparators_lineComment
    (body : List UInt8)
    (hbody : 10 ∉ body)
    (rest : List UInt8) :
    skipSeparators .lineComment (body ++ 10 :: rest) = skipSeparators .between rest := by
  induction body with
  | nil => simp [skipSeparators]
  | cons c body ih =>
      have hc : c ≠ 10 := fun h => hbody (h ▸ List.mem_cons_self)
      have hbody' : 10 ∉ body := fun h => hbody (List.mem_cons_of_mem c h)
      rw [List.cons_append, skipSeparators, if_neg hc]
      exact ih hbody'

theorem skipSeparators_blockComment
    (body : List UInt8)
    (hbody : 42 ∉ body)
    (rest : List UInt8) :
    skipSeparators .blockComment (body ++ 42 :: 47 :: rest) = skipSeparators .between rest := by
  induction body with
  | nil => rw [List.nil_append, skipSeparators.eq_3]
  | cons c body ih =>
      have hc : c ≠ 42 := fun h => hbody (h ▸ List.mem_cons_self)
      have hbody' : 42 ∉ body := fun h => hbody (List.mem_cons_of_mem c h)
      rw [List.cons_append, skipSeparators.eq_4 _ _ (fun _ h _ => hc h)]
      exact ih hbody'

/-- A word starts where a letter or an underscore stands. -/
theorem skipSeparators_ident
    {c : UInt8}
    (hc : isIdentByte c)
    (rest : List UInt8) :
    skipSeparators .between (c :: rest) = c :: rest := by
  obtain ⟨h45, h47, -, -⟩ := isIdentByte_ne hc
  have hspace : isSpace c = false := by
    simp only [isIdentByte, isLower, isUpperOrUnderscore, Bool.or_eq_true, Bool.and_eq_true,
      decide_eq_true_eq, beq_iff_eq] at hc
    simp only [isSpace, Bool.or_eq_false_iff, beq_eq_false_iff_ne, Bool.and_eq_false_iff,
      decide_eq_false_iff_not]
    grind
  have h35 : c ≠ 35 := by
    rintro rfl
    exact absurd hc (by decide)
  rw [skipSeparators.eq_def]
  simp_all

/-- A word that ends where a byte that is no letter or underscore stands. -/
theorem mysqlWord_word
    {word : List UInt8}
    (hword : ∀ c ∈ word, isIdentByte c)
    (hne : word ≠ [])
    {sep : UInt8}
    (hsep : isIdentByte sep = false)
    (rest : List UInt8) :
    mysqlWord (word ++ sep :: rest) = (word.map toUpper, sep :: rest) := by
  obtain ⟨c, cs, rfl⟩ := List.exists_cons_of_ne_nil hne
  have htake : (c :: cs ++ sep :: rest).takeWhile isIdentByte = c :: cs :=
    List.takeWhile_append_of_pos hword ▸ by simp [hsep]
  have hdrop : (c :: cs ++ sep :: rest).dropWhile isIdentByte = sep :: rest := by
    rw [List.dropWhile_append_of_pos hword]
    simp [hsep]
  simp only [mysqlWord, List.cons_append, skipSeparators_ident (hword c List.mem_cons_self)]
  rw [← List.cons_append, htake, hdrop]

/-- The reading of the next word depends only on where the separators end. -/
theorem mysqlWord_of_skipSeparators
    {s t : List UInt8}
    (h : skipSeparators .between s = skipSeparators .between t) :
    mysqlWord s = mysqlWord t := by
  simp only [mysqlWord, h]

/-! ### Where the filters and MySQL disagree -/

/-- A keyword that starts no entry is not sensitive, whatever follows it. -/
theorem matchKeywords_of_not_head
    {kws : List (List (List UInt8))}
    {keyword lexer : List UInt8}
    (h : ∀ kw ∈ kws, kw.head? ≠ some keyword) :
    matchKeywords kws keyword lexer = false := by
  induction kws with
  | nil => rfl
  | cons kw kws ih =>
      have ih := ih (fun kw' hkw' => h kw' (List.mem_cons_of_mem kw hkw'))
      cases kw with
      | nil => simpa [matchKeywords] using ih
      | cons first second =>
          have hne : keyword ≠ first := fun he =>
            h (first :: second) List.mem_cons_self (by simp [he])
          simpa [matchKeywords, hne] using ih

/-- A comment between the two words of a sensitive statement glues them into one
token: the lexer reads `CREATE/*…*/USER` as `CREATEUSER`, which starts no entry of
`sensitiveKeywords`, while MySQL reads `CREATE USER`.  This holds for every comment
without a star inside and every rest of the statement. -/
theorem isSensitiveSQL_blockComment_createUser
    (body rest : List UInt8)
    (hbody : 42 ∉ body)
    {sep : UInt8}
    (hsep : isDelimiter sep) :
    mysqlKeywords (asciiBytes "CREATE" ++ 47 :: 42 :: (body ++ 42 :: 47 ::
        (asciiBytes "USER" ++ sep :: rest))) = (asciiBytes "CREATE", asciiBytes "USER") ∧
      IsSensitiveSQL (asciiBytes "CREATE" ++ 47 :: 42 :: (body ++ 42 :: 47 ::
        (asciiBytes "USER" ++ sep :: rest))) = false := by
  have hCreate : ∀ c ∈ asciiBytes "CREATE", isIdentByte c := identBytes_of_upper (by decide)
  have hUser : ∀ c ∈ asciiBytes "USER", isIdentByte c := identBytes_of_upper (by decide)
  have hsep' : isIdentByte sep = false := by
    simp only [isDelimiter, Bool.and_eq_true, Bool.not_eq_true'] at hsep
    exact hsep.1.1.1.1
  constructor
  · -- MySQL: the comment separates the two words
    have hcomment : mysqlWord (47 :: 42 :: (body ++ 42 :: 47 :: (asciiBytes "USER" ++ sep :: rest))) =
        mysqlWord (asciiBytes "USER" ++ sep :: rest) := by
      apply mysqlWord_of_skipSeparators
      rw [skipSeparators, skipSeparators_blockComment body hbody]
    have hfirst : mysqlWord (asciiBytes "CREATE" ++ 47 :: 42 :: (body ++ 42 :: 47 ::
        (asciiBytes "USER" ++ sep :: rest))) = (asciiBytes "CREATE", 47 :: 42 :: (body ++ 42 :: 47 ::
        (asciiBytes "USER" ++ sep :: rest))) := by
      rw [mysqlWord_word hCreate (by decide) (by decide), map_toUpper_of_upper (by decide)]
    have hsecond : mysqlWord (asciiBytes "USER" ++ sep :: rest) = (asciiBytes "USER", sep :: rest) := by
      rw [mysqlWord_word hUser (by decide) hsep', map_toUpper_of_upper (by decide)]
    simp only [mysqlKeywords, hfirst, hcomment, hsecond]
  · -- the lexer: the comment opens inside the token and the word after it goes on it
    have hnext : NextToken (asciiBytes "CREATE" ++ 47 :: 42 :: (body ++ 42 :: 47 ::
        (asciiBytes "USER" ++ sep :: rest))) = (asciiBytes "CREATE" ++ asciiBytes "USER", rest) := by
      unfold NextToken
      rw [nextTokenLoop_word _ hCreate, nextTokenLoop, nextTokenLoop_blockComment body hbody,
        nextTokenLoop_word _ hUser, nextTokenLoop_delimiter hsep (by decide),
        map_toUpper_of_upper (by decide), map_toUpper_of_upper (by decide), List.nil_append]
    rw [IsSensitiveSQL, hnext]
    simp only [List.append_eq_nil_iff]
    exact matchKeywords_of_not_head (by decide)

theorem isSensitiveSQL_blockComment_createUser_identified :
    42 ∉ ([] : List UInt8) ∧ isDelimiter 32 = true ∧
      mysqlKeywords (asciiBytes "CREATE" ++ 47 :: 42 :: ([] ++ 42 :: 47 ::
          (asciiBytes "USER" ++ 32 :: asciiBytes "u IDENTIFIED BY 'secret'"))) =
        (asciiBytes "CREATE", asciiBytes "USER") ∧
      IsSensitiveSQL (asciiBytes "CREATE" ++ 47 :: 42 :: ([] ++ 42 :: 47 ::
          (asciiBytes "USER" ++ 32 :: asciiBytes "u IDENTIFIED BY 'secret'"))) = false :=
  ⟨by decide, by decide,
    isSensitiveSQL_blockComment_createUser [] (asciiBytes "u IDENTIFIED BY 'secret'")
      (by decide) (by decide)⟩

/-- A `#` comment, which the lexer does not know, hides the statement after it: the
word inside the comment is the first token, so every statement behind `#SELECT` and a
newline is read-only to the filter, while MySQL reads the statement itself. -/
theorem isReadOnly_hashComment
    (rest : List UInt8) :
    IsReadOnly (asciiBytes "#SELECT" ++ 10 :: rest) = true ∧
      mysqlKeywords (asciiBytes "#SELECT" ++ 10 :: rest) = mysqlKeywords rest := by
  have hhash : asciiBytes "#SELECT" = 35 :: asciiBytes "SELECT" := by decide
  rw [hhash, List.cons_append]
  constructor
  · -- the lexer skips the `#` as a delimiter and reads the word of the comment
    have hnext : NextToken (35 :: (asciiBytes "SELECT" ++ 10 :: rest)) =
        (asciiBytes "SELECT", rest) := by
      unfold NextToken
      rw [nextTokenLoop_skip (by decide)]
      exact NextToken_upperWord (by decide) (by decide) (by decide) rest
    simp only [IsReadOnly, hnext]
    decide
  · -- MySQL skips the comment to the end of its line
    have hword : mysqlWord (35 :: (asciiBytes "SELECT" ++ 10 :: rest)) = mysqlWord rest := by
      apply mysqlWord_of_skipSeparators
      rw [skipSeparators, skipSeparators_lineComment _ (by decide)]
    simp only [mysqlKeywords, hword]

example : IsReadOnly (asciiBytes "#SELECT\nDELETE FROM t") = true ∧
    (mysqlKeywords (asciiBytes "#SELECT\nDELETE FROM t")).1 = asciiBytes "DELETE" := by
  decide

end Lex
end TiProxy
