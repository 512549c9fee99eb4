import PersonalFeed.Cache.Key
import PersonalFeed.Proofs.Text

/-!
Written keys are read in one way. The kind of a key stands between the root and the next colon. An
identity may hold colons itself, so the parts of a page key are told apart from the right, those of
a similar key from both sides.
-/

set_option autoImplicit false

namespace PersonalFeed

theorem notMem_repr (n : Nat) {c : Char} (other : c.isDigit = false) : c ∉ n.repr.toList := by
  intro member
  rw [Nat.toList_repr] at member
  have digit := Nat.isDigit_of_mem_toDigits (by omega) (by omega) member
  rw [other] at digit
  cases digit

theorem repr_inj {m n : Nat} (same : m.repr.toList = n.repr.toList) : m = n := by
  rw [Nat.toList_repr, Nat.toList_repr] at same
  rw [← @Nat.ofDigitChars_ten_toDigits m, same, Nat.ofDigitChars_ten_toDigits]

theorem toList_toString_negSucc (n : Nat) :
    (toString (Int.negSucc n)).toList = '-' :: (n + 1).repr.toList := by
  have split : toString (Int.negSucc n) = "-" ++ Nat.repr (n + 1) := rfl
  rw [split, String.toList_append]
  rfl

theorem notMem_toString (n : Int) {c : Char} (other : c.isDigit = false) (noSign : c ≠ '-') :
    c ∉ (toString n).toList := by
  cases n with
  | ofNat n => exact notMem_repr n other
  | negSucc n =>
    rw [toList_toString_negSucc, List.mem_cons, not_or]
    exact ⟨noSign, notMem_repr _ other⟩

theorem toString_inj {m n : Int} (same : (toString m).toList = (toString n).toList) : m = n := by
  have signless (k : Nat) : '-' ∉ k.repr.toList := notMem_repr k (by decide)
  cases m with
  | ofNat m =>
    cases n with
    | ofNat n => exact congrArg _ (repr_inj same)
    | negSucc n =>
      rw [toList_toString_negSucc] at same
      exact absurd (same ▸ List.mem_cons_self) (signless m)
  | negSucc m =>
    rw [toList_toString_negSucc] at same
    cases n with
    | ofNat n => exact absurd (same ▸ List.mem_cons_self) (signless n)
    | negSucc n =>
      rw [toList_toString_negSucc] at same
      have sizes := repr_inj (List.cons.inj same).2
      exact congrArg _ (Nat.succ.inj sizes)

namespace CacheKey

def owner : CacheKey → Text
  | .interestVector identity | .follows identity | .blocks identity | .seen identity
  | .topics identity | .profile identity | .page identity _ _ _ | .similar _ identity _ => identity

def IsPageOf (reader : Text) (key : CacheKey) : Prop :=
  ∃ fingerprint size cursor, key = .page reader fingerprint size cursor

def IsListFor (requester : Text) (key : CacheKey) : Prop :=
  ∃ post limit, key = .similar post requester limit

def colon : Code := .char ':'

/-- A key whose parts can be told apart: a fingerprint and a post have no colon, and a cursor is
some text without one that is not the mark of the first page. -/
def IsProper : CacheKey → Prop
  | page _ fingerprint _ cursor =>
    fingerprint.Lacks ':' ∧
      ∀ post, cursor = some post → post.Lacks ':' ∧ post.isEmpty = false ∧ post ≠ startMark
  | similar post _ _ => post.Lacks ':'
  | _ => True

def body (key : CacheKey) : List Code := [colon].intercalate (key.parts.map Text.codes)

theorem codes_text (root : Text) (key : CacheKey) :
    (key.text root).codes =
      root.codes ++ colon :: ((key.artifact.keyName : Text).codes ++ colon :: key.body) := by
  cases key <;>
    simp [text, join, Text.intercalate, body, parts, colon, Text.ofString, Text.ofChars,
      List.intercalate_cons_cons, artifact]

theorem isWhole_join (root : Text) (artifact : Artifact) (parts : List Text) :
    (join root artifact parts).isWhole = (root.isWhole && parts.all Text.isWhole) := by
  have name : (artifact.keyName : Text).isWhole = true := by cases artifact <;> decide
  rw [join, Text.isWhole_intercalate (by decide), List.all_cons, List.all_cons, name,
    Bool.true_and]

theorem keyName_lacks (artifact : Artifact) : colon ∉ (artifact.keyName : Text).codes := by
  cases artifact <;> decide

theorem keyName_inj {a b : Artifact} (same : (a.keyName : Text).codes = (b.keyName : Text).codes) :
    a = b := by
  cases a <;> cases b <;> first | rfl | exact absurd same (by decide)

theorem toString_lacks_colon (n : Int) : colon ∉ (toString n : Text).codes :=
  Text.lacks_ofString.2 (notMem_toString n (by decide) (by decide))

theorem toString_text_inj {m n : Int} (same : (toString m : Text).codes = (toString n : Text).codes) :
    m = n :=
  toString_inj (congrArg String.toList (Text.ofString_inj (Text.codes_inj same)))

theorem cursorPart_lacks {cursor : Option Text}
    (proper : ∀ post, cursor = some post → post.Lacks ':' ∧ post.isEmpty = false ∧
      post ≠ startMark) : colon ∉ (cursorPart cursor).codes := by
  cases cursor with
  | none =>
    rw [cursorPart]
    decide
  | some post =>
    obtain ⟨free, some, _⟩ := proper post rfl
    rw [cursorPart, if_neg (by simp [some])]
    exact free

theorem cursorPart_inj {a b : Option Text}
    (proper : ∀ post, a = some post → post.Lacks ':' ∧ post.isEmpty = false ∧ post ≠ startMark)
    (proper' : ∀ post, b = some post → post.Lacks ':' ∧ post.isEmpty = false ∧ post ≠ startMark)
    (same : cursorPart a = cursorPart b) : a = b := by
  -- The mark of a start is no proper post, so it is told from every cursor.
  cases a with
  | none =>
    cases b with
    | none => rfl
    | some post =>
      obtain ⟨_, some, other⟩ := proper' post rfl
      simp only [cursorPart, some] at same
      exact absurd same.symm other
  | some first =>
    obtain ⟨_, some, other⟩ := proper first rfl
    cases b with
    | none =>
      simp only [cursorPart, some] at same
      exact absurd same other
    | some second =>
      obtain ⟨_, some', _⟩ := proper' second rfl
      simp only [cursorPart, some, some'] at same
      exact congrArg _ same

theorem page_body (identity fingerprint : Text) (size : Int) (cursor : Option Text) :
    (page identity fingerprint size cursor).body =
      identity.codes ++ colon :: (fingerprint.codes ++ colon :: ((toString size : Text).codes ++
        colon :: (cursorPart cursor).codes)) := by
  simp [body, parts, List.intercalate_cons_cons]

theorem similar_body (post requester : Text) (limit : Int) :
    (similar post requester limit).body =
      post.codes ++ colon :: (requester.codes ++ colon :: (toString limit : Text).codes) := by
  simp [body, parts, List.intercalate_cons_cons]

theorem page_body_inj {identity identity' fingerprint fingerprint' : Text} {size size' : Int}
    {cursor cursor' : Option Text} (proper : (page identity fingerprint size cursor).IsProper)
    (proper' : (page identity' fingerprint' size' cursor').IsProper)
    (same : (page identity fingerprint size cursor).body =
      (page identity' fingerprint' size' cursor').body) :
    page identity fingerprint size cursor = page identity' fingerprint' size' cursor' := by
  have regroup : ∀ (a b c d : List Code),
      a ++ colon :: (b ++ colon :: (c ++ colon :: d)) =
        ((a ++ colon :: b) ++ colon :: c) ++ colon :: d := by
    simp
  rw [page_body, page_body, regroup, regroup] at same
  obtain ⟨same, ends⟩ :=
    split_at_last (cursorPart_lacks proper.2) (cursorPart_lacks proper'.2) same
  obtain ⟨same, sizes⟩ :=
    split_at_last (toString_lacks_colon _) (toString_lacks_colon _) same
  obtain ⟨identities, fingerprints⟩ := split_at_last proper.1 proper'.1 same
  rw [Text.codes_inj identities, Text.codes_inj fingerprints,
    toString_text_inj sizes,
    cursorPart_inj proper.2 proper'.2 (Text.codes_inj ends)]

theorem similar_body_inj {post post' requester requester' : Text} {limit limit' : Int}
    (proper : (similar post requester limit).IsProper)
    (proper' : (similar post' requester' limit').IsProper)
    (same : (similar post requester limit).body = (similar post' requester' limit').body) :
    similar post requester limit = similar post' requester' limit' := by
  rw [similar_body, similar_body] at same
  obtain ⟨posts, same⟩ := split_at_first proper proper' same
  obtain ⟨requesters, limits⟩ :=
    split_at_last (toString_lacks_colon _) (toString_lacks_colon _) same
  rw [Text.codes_inj posts, Text.codes_inj requesters, toString_text_inj limits]

theorem single_body_inj {identity identity' : Text}
    (same : [colon].intercalate [identity.codes] = [colon].intercalate [identity'.codes]) :
    identity = identity' :=
  Text.codes_inj (by simpa using same)

/-- The kind of a key and its parts are told apart at the first colon after the root. -/
theorem kind_of_text {root : Text} {key other : CacheKey} (same : key.text root = other.text root) :
    key.artifact = other.artifact ∧ key.body = other.body := by
  have whole := congrArg Text.codes same
  rw [codes_text, codes_text, List.append_cancel_left_eq] at whole
  obtain ⟨names, bodies⟩ :=
    split_at_first (keyName_lacks _) (keyName_lacks _) (List.cons.inj whole).2
  exact ⟨keyName_inj names, bodies⟩

theorem text_inj {root : Text} {key other : CacheKey} (proper : key.IsProper)
    (proper' : other.IsProper) (same : key.text root = other.text root) : key = other := by
  obtain ⟨kinds, bodies⟩ := kind_of_text same
  cases key <;> cases other <;> first
    | exact congrArg _ (single_body_inj bodies)
    | exact page_body_inj proper proper' bodies
    | exact similar_body_inj proper proper' bodies
    | cases kinds

/-- The key of something that a person has one of is no other key, whatever is in that one. -/
theorem text_inj_of_single {root : Text} {key other : CacheKey}
    (noPage : key.artifact ≠ .feedPage) (noList : key.artifact ≠ .similar)
    (same : key.text root = other.text root) : key = other := by
  obtain ⟨kinds, bodies⟩ := kind_of_text same
  cases key <;> cases other <;> first
    | exact congrArg _ (single_body_inj bodies)
    | exact absurd rfl noPage
    | exact absurd rfl noList
    | cases kinds

theorem string_inj {root : Text} {key other : CacheKey} {s : String} (proper : key.IsProper)
    (proper' : other.IsProper) (written : (key.text root).toString? = some s)
    (written' : (other.text root).toString? = some s) : key = other :=
  text_inj proper proper'
    ((Text.ofString_of_toString? written).symm.trans (Text.ofString_of_toString? written'))

end CacheKey

end PersonalFeed
