import PersonalFeed.Proofs.Ranking.Specification
import PersonalFeed.Proofs.Topics

/-!
Tags and hashtags. A tag is taken as it is, but a hashtag ends where its word does, and a low line
is in no word. So the two mean the same topic unless there is a low line in them.
-/

set_option autoImplicit false

namespace PersonalFeed

namespace Text

variable {word : Text} {code : Code}

def isTagSign (code : Code) : Bool := isPlainLetter code || isPlainDigit code || code == '_'

/-- A word as tags are made of, with something other than low lines in it. -/
structure IsTagWord (word : Text) : Prop where
  signs : ∀ code ∈ word.codes, isTagSign code = true
  some : ∃ code ∈ word.codes, code ≠ '_'

theorem isAscii_of_tagSign (sign : isTagSign code = true) : isAscii code = true := by
  simp only [isTagSign, isPlainLetter, isPlainDigit, isBetween, Bool.or_eq_true, Bool.and_eq_true,
    decide_eq_true_eq, beq_iff_eq] at sign
  refine decide_eq_true ?_
  rcases sign with ((⟨-, most⟩ | ⟨-, most⟩) | ⟨-, most⟩) | rfl
  · exact Nat.lt_of_le_of_lt most (by decide)
  · exact Nat.lt_of_le_of_lt most (by decide)
  · exact Nat.lt_of_le_of_lt most (by decide)
  · decide

/-- No sign is a blank or `#`, and all but the low line are in words. -/
theorem tagSign_spec (sign : isTagSign code = true) : isBlank code = false ∧ code ≠ '#' ∧
    (code ≠ '_' → isAlphanumeric (lowerCode code) = true) := by
  have each : ∀ n < 128, isTagSign (.ofNumber n) = true →
      isBlank (.ofNumber n) = false ∧ Code.ofNumber n ≠ '#' ∧
        (Code.ofNumber n ≠ '_' → isAlphanumeric (lowerCode (.ofNumber n)) = true) := by
    decide +kernel
  have small := of_decide_eq_true (isAscii_of_tagSign sign)
  rw [← Code.ofNumber_number code] at sign ⊢
  exact each _ small sign

namespace IsTagWord

theorem codes_lower (isTagWord : word.IsTagWord) : word.lower.codes = word.codes.map lowerCode :=
  lowerFrom_of_isAscii fun code member => isAscii_of_tagSign (isTagWord.signs code member)

theorem lower_hashtag (isTagWord : word.IsTagWord) :
    (("#" : Text) ++ word).lower.codes = Code.char '#' :: word.lower.codes := by
  have ascii : ∀ code ∈ (("#" : Text) ++ word).codes, isAscii code = true :=
    List.forall_mem_cons.2
      ⟨by decide, fun code member => isAscii_of_tagSign (isTagWord.signs code member)⟩
  rw [isTagWord.codes_lower]
  exact lowerFrom_of_isAscii ascii

theorem nonempty (isTagWord : word.IsTagWord) : word.lower.codes ≠ [] := by
  obtain ⟨code, member, -⟩ := isTagWord.some
  rw [isTagWord.codes_lower]
  exact List.ne_nil_of_mem (List.mem_map_of_mem member)

end IsTagWord

end Text

theorem Word.scan_of_inside {run codes : List Code} {tagged : Bool}
    (inside : ∀ code ∈ codes, Text.isAlphanumeric code = true) :
    scan run tagged codes = ofRun (codes.reverse ++ run) tagged := by
  induction codes generalizing run with
  | nil => rfl
  | cons code rest ih =>
    rw [List.forall_mem_cons] at inside
    rw [scan, if_pos inside.1, ih inside.2, List.reverse_cons, List.append_assoc]
    rfl

namespace Topic

variable {word : Text}

theorem ofTag_hashtag (isTagWord : word.IsTagWord) : ofTag ("#" ++ word) = word.lower := by
  have none : ∀ code ∈ (("#" : Text) ++ word).codes, Text.isBlank code = false :=
    List.forall_mem_cons.2
      ⟨by decide, fun code member => (Text.tagSign_spec (isTagWord.signs code member)).1⟩
  have apart : ∀ code ∈ word.codes, (code == Code.char '#') = false := fun code member =>
    beq_false_of_ne (Text.tagSign_spec (isTagWord.signs code member)).2.1
  have rest : (("#" : Text) ++ word).codes.dropWhile (· == Code.char '#') = word.codes :=
    dropWhile_of_none apart
  rw [ofTag, Text.strip, trimWhile_of_none none, rest]

theorem ofText_hashtag (isTagWord : word.IsTagWord) (lacks : word.Lacks '_') :
    ofText ("#" ++ word) = [word.lower] := by
  have inside : ∀ code ∈ word.lower.codes, Text.isAlphanumeric code = true := by
    rw [isTagWord.codes_lower]
    refine List.forall_mem_map.2 fun code member => ?_
    refine (Text.tagSign_spec (isTagWord.signs code member)).2.2 ?_
    rintro rfl
    exact lacks member
  -- The sign ends a run of nothing, and what stands behind it goes on to the end of the text.
  have words : Word.ofText (("#" : Text) ++ word).lower = [⟨word.lower, true⟩] := by
    rw [Word.ofText, isTagWord.lower_hashtag, Word.scan, if_neg (by decide),
      Word.scan_of_inside inside, List.append_nil]
    simp [Word.ofRun, isTagWord.nonempty]
  rw [ofText, words]
  rfl

theorem lowLine_apart {text topic : Text} (isTagWord : word.IsTagWord) (marked : ¬ word.Lacks '_')
    (member : topic ∈ ofText text) : topic ≠ word.lower := by
  rintro rfl
  have lowLine : Code.char '_' ∈ word.lower.codes := by
    rw [isTagWord.codes_lower]
    exact List.mem_map.2 ⟨_, not_not.1 marked, by decide⟩
  exact lacks_of_occurs (by decide) (mem_ofText_iff.1 member) lowLine

variable {C R : Type} [Scalar R]

theorem ofPost_of_one {post : Post C} {topic : Text} (nonempty : topic.codes ≠ [])
    (one : post.tags.map ofTag ++ ofText post.body = [topic]) : ofPost post = [topic] := by
  have kept : (!topic.isEmpty) = true := by simpa [Text.isEmpty] using nonempty
  rw [ofPost, one, List.filter_singleton, kept]
  rfl

theorem overlap_of_mem {topic : Text} {recent : List Text} (member : topic ∈ recent) :
    overlap [topic] recent = (Scalar.one : R) := by
  have some : recent.isEmpty = false := by
    cases recent with
    | nil => cases member
    | cons => rfl
  have found : recent.contains topic = true := List.contains_iff_mem.2 member
  rw [overlap, some, List.countP_singleton, found]
  rfl

theorem mem_ofPosts {topic : Text} {saved : List (Post C)} {post : Post C} (member : post ∈ saved)
    (has : topic ∈ ofPost post) : topic ∈ ofPosts saved :=
  List.mem_eraseDups.2 (List.mem_flatMap.2 ⟨post, member, has⟩)

/-- A tag is one topic. The same hashtag in a body is that topic if there is no low line in it, and
then the topics of the one post are all found among those of posts with the other. With a low line
the two posts have no topic in common. -/
theorem tag_means_hashtag (isTagWord : word.IsTagWord) {tagged written : Post C}
    (tags : tagged.tags = ["#" ++ word]) (noBody : tagged.body = .empty)
    (noTags : written.tags = []) (body : written.body = "#" ++ word) :
    ofPost tagged = [word.lower] ∧
      (word.Lacks '_' → ofPost written = ofPost tagged ∧ ∀ saved : List (Post C),
        (written ∈ saved → overlap (ofPost tagged) (ofPosts saved) = (Scalar.one : R)) ∧
        (tagged ∈ saved → overlap (ofPost written) (ofPosts saved) = (Scalar.one : R))) ∧
      (¬ word.Lacks '_' → ∀ topic ∈ ofPost written, topic ∉ ofPost tagged) := by
  -- A tag is taken as a whole, low line or not, but a hashtag ends at the first one.
  have ofTagged : ofPost tagged = [word.lower] := by
    have none : ofText .empty = [] := by decide
    refine ofPost_of_one isTagWord.nonempty ?_
    rw [tags, noBody, none, List.map_singleton, ofTag_hashtag isTagWord, List.append_nil]
  refine ⟨ofTagged, fun lacks => ?_, fun marked topic member => ?_⟩
  · have ofWritten : ofPost written = [word.lower] := by
      refine ofPost_of_one isTagWord.nonempty ?_
      rw [noTags, body, ofText_hashtag isTagWord lacks, List.map_nil, List.nil_append]
    refine ⟨ofWritten.trans ofTagged.symm, fun saved => ⟨fun member => ?_, fun member => ?_⟩⟩
    · rw [ofTagged]
      exact overlap_of_mem (mem_ofPosts member (by simp [ofWritten]))
    · rw [ofWritten]
      exact overlap_of_mem (mem_ofPosts member (by simp [ofTagged]))
  · rw [ofPost, noTags, body, List.map_nil, List.nil_append, List.mem_eraseDups,
      List.mem_filter] at member
    rw [ofTagged, List.mem_singleton]
    exact lowLine_apart isTagWord marked member.1

/-- The hashtag of a word without a low line, as a tag and in a body. -/
theorem tag_means_hashtag_of_rock :
    let tagged : Post ℚ := { plainPost "a" with tags := ["#" ++ "Rock4"] }
    let written : Post ℚ := { plainPost "b" with body := "#" ++ "Rock4" }
    Text.IsTagWord "Rock4" ∧ Text.Lacks "Rock4" '_' ∧
      ofPost tagged = [("rock4" : Text)] ∧ ofPost written = ofPost tagged ∧
      overlap (ofPost tagged) (ofPosts [written]) = (Scalar.one : ℚ) ∧
      overlap (ofPost written) (ofPosts [tagged]) = (Scalar.one : ℚ) := by
  intro tagged written
  have isTagWord : Text.IsTagWord "Rock4" := ⟨by decide, by decide⟩
  have lacks : Text.Lacks "Rock4" '_' := by decide
  have lowered : Text.lower "Rock4" = "rock4" := by decide
  have isTag : tagged.tags = ["#" ++ Text.ofString "Rock4"] := rfl
  have isHashtag : written.body = "#" ++ Text.ofString "Rock4" := rfl
  obtain ⟨topics, plain, -⟩ := tag_means_hashtag (R := ℚ) isTagWord isTag rfl rfl isHashtag
  obtain ⟨same, found⟩ := plain lacks
  exact ⟨isTagWord, lacks, lowered ▸ topics, same, (found [written]).1 List.mem_cons_self,
    (found [tagged]).2 List.mem_cons_self⟩

/-- The word `a_b` is a topic as a tag, but not in a body. -/
theorem not_same_topics_of_lowLine :
    ¬ ∀ (word : Text) (tagged written : Post ℚ), word.IsTagWord →
      tagged.tags = ["#" ++ word] → tagged.body = .empty → written.tags = [] →
      written.body = "#" ++ word → ∀ topic, topic ∈ ofPost written ↔ topic ∈ ofPost tagged := by
  intro same
  have both := same "a_b" { plainPost "a" with tags := ["#" ++ "a_b"] }
    { plainPost "b" with body := "#" ++ "a_b" } ⟨by decide, by decide⟩ rfl rfl rfl rfl "a_b"
  exact absurd both (by decide)

end Topic

end PersonalFeed
