import PersonalFeed.Proofs.Number.Reals
import PersonalFeed.Proofs.Pages.Walk
import PersonalFeed.Proofs.Ranking.Bounds

/-!
Ranges of scores in real arithmetic. Each signal is cut off or divided by what it does not exceed.
A final score is a mean of the signals by their weights, so it lies between zero and the largest of
them.
-/

set_option autoImplicit false

namespace PersonalFeed

open Scalar

variable {C : Type} {g : Growth}

/-! ### Signals -/

section

variable {config : Config (Unrounded g)}

theorem cappedShare_mem (count : Int) {cap : Int} (positive : 0 < cap) :
    (cappedShare count cap : Unrounded g).value ∈ Set.Icc 0 1 := by
  have share : 0 ≤ (quotient (max count 0) cap : Unrounded g).value := by
    rw [quotient, if_neg (not_lt.2 positive.le), Unrounded.value_ratio]
    exact div_nonneg (Int.cast_nonneg (le_max_right count 0)) (Nat.cast_nonneg _)
  rw [cappedShare, Unrounded.value_smaller, Unrounded.value_one]
  exact ⟨le_min share zero_le_one, min_le_right _ _⟩

theorem engagement_mem (accepted : config.IsAccepted) (post : Post C) :
    (engagement config.caps post).value ∈ Set.Icc 0 config.caps.peak.value := by
  have caps := Config.keeps_of_accepted accepted .engagementCaps (by decide)
  have shares := Config.keeps_of_accepted accepted .engagementWeights (by decide)
  simp only [Config.breaks, Bool.or_eq_false_iff, decide_eq_false_iff_not, Int.not_le,
    Unrounded.isNegative_eq_false] at caps shares
  obtain ⟨savesUp, savesMost⟩ := cappedShare_mem (g := g) post.saves caps.1
  obtain ⟨commentsUp, commentsMost⟩ := cappedShare_mem (g := g) post.comments caps.2
  rw [engagement, EngagementCaps.peak]
  simp only [Unrounded.value_add, Unrounded.value_mul]
  exact ⟨add_nonneg (mul_nonneg savesUp shares.1) (mul_nonneg commentsUp shares.2),
    add_le_add (mul_le_of_le_one_left shares.1 savesMost)
      (mul_le_of_le_one_left shares.2 commentsMost)⟩

theorem decay_mem {age rate : Unrounded g} (positive : 0 < rate.value) :
    (decay age rate).value ∈ Set.Ioc 0 1 := by
  have least : (0 : ℝ) < 1 / 2 ^ 1022 := by positivity
  have exponent : -rate.value * max 0 age.value ≤ 0 :=
    mul_nonpos_of_nonpos_of_nonneg (neg_nonpos.2 positive.le) (le_max_left 0 _)
  simp only [decay, Unrounded.value_larger, Unrounded.value_exp, Unrounded.value_mul,
    Unrounded.value_neg, Unrounded.value_zero, Unrounded.value_leastNormal]
  exact ⟨lt_max_of_lt_right least, max_le (g.exp_le_one _ exponent)
    (div_le_one_of_le₀ (one_le_pow₀ one_le_two) (by positivity))⟩

theorem recency_mem (accepted : config.IsAccepted) (post : Post C) (now : Timestamp) :
    ∃ score, recency? post now (.real config.ranking.decayRate) = .ok score ∧
      score.value ∈ Set.Ioc 0 1 := by
  have steady := Config.keeps_of_accepted accepted .decayRate (by decide)
  simp only [Config.breaks, Bool.not_eq_false', Unrounded.lt_iff, Unrounded.value_zero] at steady
  have rate : rateOf (.real config.ranking.decayRate) = .ok config.ranking.decayRate := by
    rw [rateOf, (Unrounded.le_eq_false _ _).2 (by simpa using steady)]
    rfl
  exact ⟨_, by rw [recency?, rate]; rfl, decay_mem steady⟩

theorem novelty_mem (topics recent : List Text) :
    (Topic.novelty topics recent : Unrounded g).value ∈ Set.Icc (1 / 2) 1 := by
  have overlap : (Topic.overlap topics recent : Unrounded g).value ∈ Set.Icc 0 1 := by
    unfold Topic.overlap
    split
    · simp
    · have share : (topics.countP recent.contains : ℝ) ≤ topics.length :=
        Nat.cast_le.2 List.countP_le_length
      rw [Unrounded.value_ratio, Int.cast_natCast]
      exact ⟨by positivity, div_le_one_of_le₀ share (Nat.cast_nonneg _)⟩
  obtain ⟨up, most⟩ := overlap
  rw [Topic.novelty]
  simp only [Unrounded.value_sub, Unrounded.value_mul, Unrounded.value_one, Unrounded.value_ratio]
  constructor <;> push_cast <;> linarith

theorem privacy_eq {muted : List (Json (Unrounded g))} {post : Post C} {score : Unrounded g}
    (ended : privacyScore? muted post = .ok score) : score.value = 1 / 10 ∨ score.value = 1 := by
  rcases eq_of_privacyScore? ended with rfl | rfl
  · exact .inr (Unrounded.value_one)
  · exact .inl (by simp)

theorem seenMultiplier_mem (days : Option (Unrounded g)) :
    (seenMultiplier days).value ∈ Set.Icc (1 / 10) 1 := by
  have whole : (one : Unrounded g).value ∈ Set.Icc (1 / 10) 1 := by
    rw [Unrounded.value_one]
    norm_num
  cases days with
  | none => exact whole
  | some days =>
    rw [seenMultiplier, recovery]
    dsimp only
    split
    · exact whole
    · simp only [Unrounded.value_smaller, Unrounded.value_larger, Unrounded.value_one,
        Unrounded.value_ratio]
      refine ⟨le_min (by norm_num) (le_max_of_le_left (by norm_num)), min_le_left _ _⟩

end

/-! ### Final scores -/

/-- A candidate with signals in their ranges, the engagement up to a peak. -/
structure Candidate.InRange (peak : ℝ) (c : Candidate C (Unrounded g)) : Prop where
  similarity : c.similarity.value ∈ Set.Icc (-1) 1
  engagement : c.engagement.value ∈ Set.Icc 0 peak
  temporal : c.temporal.value ∈ Set.Ioc 0 1
  privacy : c.privacy.value = 1 / 10 ∨ c.privacy.value = 1
  novelty : c.novelty.value ∈ Set.Icc (1 / 2) 1
  seen : c.seen.value ∈ Set.Icc (1 / 10) 1

/-- The largest of the signals that are blended. Similarity counts from zero up. -/
noncomputable def Scored.largest (s : Scored C (Unrounded g)) : ℝ :=
  max (max (max (max (max 0 s.similarity.value) s.temporal.value) s.engagement.value)
    s.privacy.value) s.diversity.value

structure Scored.InRange (peak : ℝ) (s : Scored C (Unrounded g)) : Prop where
  final : s.final.value ∈ Set.Icc 0 (max 1 peak)
  diversity : s.diversity.value ∈ Set.Ioc 0 1
  bound : s.final.value ≤ s.seen.value * s.largest

theorem inRange_of_candidateWith [Component C (Unrounded g)] {config : Config (Unrounded g)}
    (accepted : config.IsAccepted) {now : Timestamp} {reader : ReaderContext C (Unrounded g)}
    {post : Post C} {vector : Option (Embedding C)} {similarity : Unrounded g}
    (near : similarity.value ∈ Set.Icc (-1) 1) {c : Candidate C (Unrounded g)}
    (made : candidateWith config now reader post vector similarity = .ok c) :
    c.InRange config.caps.peak.value := by
  obtain ⟨days, _, made⟩ := ok_of_bind made
  obtain ⟨temporal, recent, made⟩ := ok_of_bind made
  obtain ⟨privacy, kept, made⟩ := ok_of_bind made
  cases made
  obtain ⟨score, found, range⟩ := recency_mem accepted post now
  cases recent.symm.trans found
  exact ⟨near, engagement_mem accepted post, range, privacy_eq kept, novelty_mem _ _,
    seenMultiplier_mem days⟩

/-- A mean by accepted weights lies between zero and what bounds its members. -/
theorem Weights.mean_mem {weights : Weights (Unrounded g)} (proper : weights.IsProper)
    {similarity temporal engagement privacy diversity most : ℝ}
    (similar : similarity ∈ Set.Icc 0 most) (recent : temporal ∈ Set.Icc 0 most)
    (engaged : engagement ∈ Set.Icc 0 most) (kept : privacy ∈ Set.Icc 0 most)
    (diverse : diversity ∈ Set.Icc 0 most) :
    (similarity * weights.similarity.value + temporal * weights.temporal.value +
      engagement * weights.engagement.value + privacy * weights.privacy.value +
      diversity * weights.diversity.value) / weights.total.value ∈ Set.Icc 0 most := by
  have positive : 0 < weights.total.value := by simpa using proper.total
  -- Each term lies between zero and the bound times its weight, and the weights add up to the
  -- divisor.
  have part (signal : Signal) {x : ℝ} (inside : x ∈ Set.Icc 0 most) :
      x * (weights.get signal).value ∈ Set.Icc 0 (most * (weights.get signal).value) := by
    have up : 0 ≤ (weights.get signal).value := by simpa using proper.up signal
    exact ⟨mul_nonneg inside.1 up, mul_le_mul_of_nonneg_right inside.2 up⟩
  have first := part .similarity similar
  have second := part .temporal recent
  have third := part .engagement engaged
  have fourth := part .privacy kept
  have fifth := part .diversity diverse
  simp only [Weights.get, Set.mem_Icc] at first second third fourth fifth
  refine ⟨div_nonneg (by linarith) positive.le, (div_le_iff₀ positive).2 ?_⟩
  simp only [Weights.total, Unrounded.value_add]
  linarith

namespace Candidate

variable {c : Candidate C (Unrounded g)} {weights : Weights (Unrounded g)} {peak : ℝ}

theorem diversityWith_mem (range : c.InRange peak) (hits : Nat) :
    (c.diversityWith hits).value ∈ Set.Ioc 0 1 := by
  obtain ⟨least, most⟩ := range.novelty
  have many : (0 : ℝ) ≤ hits * (1 / 2) := by positivity
  have value : (c.diversityWith hits).value = c.novelty.value / (1 + hits * (1 / 2)) := by
    simp [diversityWith]
  rw [value]
  exact ⟨div_pos (by linarith) (by linarith), div_le_one_of_le₀ (by linarith) (by linarith)⟩

/-- A final score is a mean of the signals, times the multiplier of posts shown before. -/
theorem value_finalWith (hits : Nat) : (c.finalWith weights hits).value =
    (max 0 c.similarity.value * weights.similarity.value +
      c.temporal.value * weights.temporal.value +
      c.engagement.value * weights.engagement.value + c.privacy.value * weights.privacy.value +
      (c.diversityWith hits).value * weights.diversity.value) / weights.total.value *
      c.seen.value := by
  simp [finalWith, Greedy.Row.final, row, base, Weights.blend, diversityWith, Greedy.Row.diversity]

noncomputable def largestWith (c : Candidate C (Unrounded g)) (hits : Nat) : ℝ :=
  max (max (max (max (max 0 c.similarity.value) c.temporal.value) c.engagement.value)
    c.privacy.value) (c.diversityWith hits).value

theorem privacy_mem (range : c.InRange peak) : c.privacy.value ∈ Set.Icc 0 1 := by
  rcases range.privacy with same | same <;> rw [same] <;> norm_num

theorem largestWith_up (hits : Nat) : 0 ≤ c.largestWith hits := by simp [largestWith]

theorem largestWith_le (range : c.InRange peak) (hits : Nat) : c.largestWith hits ≤ max 1 peak := by
  have one := le_max_left 1 peak
  have top := le_max_right 1 peak
  exact max_le (max_le (max_le (max_le (max_le (zero_le_one.trans one)
    (range.similarity.2.trans one)) (range.temporal.2.trans one)) (range.engagement.2.trans top))
    ((privacy_mem range).2.trans one)) ((diversityWith_mem range hits).2.trans one)

theorem finalWith_mem (proper : weights.IsProper) (range : c.InRange peak) (hits : Nat) :
    (c.finalWith weights hits).value ∈ Set.Icc 0 (c.seen.value * c.largestWith hits) := by
  have seen : 0 ≤ c.seen.value := le_trans (by norm_num) range.seen.1
  have mean : _ ∈ Set.Icc 0 (c.largestWith hits) := Weights.mean_mem proper
    ⟨le_max_left 0 c.similarity.value, by simp [largestWith]⟩
    ⟨range.temporal.1.le, by simp [largestWith]⟩ ⟨range.engagement.1, by simp [largestWith]⟩
    ⟨(privacy_mem range).1, by simp [largestWith]⟩
    ⟨(diversityWith_mem range hits).1.le, by simp [largestWith]⟩
  rw [value_finalWith, mul_comm c.seen.value]
  exact ⟨mul_nonneg mean.1 seen, mul_le_mul_of_nonneg_right mean.2 seen⟩

theorem inRange_scored (proper : weights.IsProper) (range : c.InRange peak) (hits : Nat) :
    (c.scored (c.diversityWith hits) (c.finalWith weights hits)).InRange peak := by
  obtain ⟨up, most⟩ := finalWith_mem proper range hits
  refine ⟨⟨up, most.trans ?_⟩, diversityWith_mem range hits, most⟩
  calc c.seen.value * c.largestWith hits
      ≤ 1 * max 1 peak := mul_le_mul range.seen.2 (largestWith_le range hits)
        (largestWith_up hits) zero_le_one
    _ = max 1 peak := one_mul _

end Candidate

/-- Under an accepted configuration every signal of every post lies in its range, whatever the
counters of the post, its age, its topics and the marks of its reader are. And from signals in their
ranges every ranking by accepted weights ends, with each final score between zero and the highest
engagement, or one, and none above its multiplier of the largest signal. -/
theorem scores_in_range [Component C (Unrounded g)] {config : Config (Unrounded g)}
    (accepted : config.IsAccepted) :
    ((∀ post : Post C, (engagement config.caps post).value ∈ Set.Icc 0 config.caps.peak.value) ∧
      (∀ (post : Post C) now, ∃ score,
        recency? post now (.real config.ranking.decayRate) = .ok score ∧
          score.value ∈ Set.Ioc 0 1) ∧
      (∀ topics recent, (Topic.novelty topics recent : Unrounded g).value ∈ Set.Icc (1 / 2) 1) ∧
      (∀ (muted : List (Json (Unrounded g))) (post : Post C),
        (∀ score, privacyScore? muted post = .ok score →
          score.value = 1 / 10 ∨ score.value = 1) ∧
        ((∀ keyword ∈ muted, keyword.isAbsent = true ∨ ∃ text, keyword = .string text) →
          ∃ score, privacyScore? muted post = .ok score)) ∧
      ∀ days : Option (Unrounded g), (seenMultiplier days).value ∈ Set.Icc (1 / 10) 1) ∧
    (∀ now reader (post : Post C) vector similarity c, similarity.value ∈ Set.Icc (-1) 1 →
      candidateWith config now reader post vector similarity = .ok c →
        c.InRange config.caps.peak.value) ∧
    ∀ given weights, Weights.check given = .ok weights →
      ∀ threshold (candidates : List (Candidate C (Unrounded g))),
        (∀ c ∈ candidates, c.InRange config.caps.peak.value) →
          ∃ ranked, rank weights threshold candidates = .ok ranked ∧
            ∀ s ∈ ranked, s.InRange config.caps.peak.value := by
  refine ⟨⟨engagement_mem accepted, recency_mem accepted, novelty_mem,
      fun muted post => ⟨fun score => privacy_eq, fun keywords => privacyScore?_isOk keywords post⟩,
      seenMultiplier_mem⟩,
    fun now reader post vector similarity c near made => inRange_of_candidateWith accepted near made,
    fun given weights checked threshold candidates ranges => ?_⟩
  have proper := Weights.isProper_of_check checked
  obtain ⟨ranked, ended⟩ : ∃ ranked, rank weights threshold candidates = .ok ranked :=
    rank_isOk (fun x _ => (Unrounded.le_iff x x).2 le_rfl) (fun _ _ _ => rfl) fun _ _ _ => rfl
  refine ⟨ranked, ended, fun s member => ?_⟩
  obtain ⟨c, inside, hits, rfl⟩ := scored_of_rank ended s member
  exact Candidate.inRange_scored proper (ranges c inside) hits

/-! ### The standard configuration -/

theorem Weights.isProper_of_reals : (Weights.default : Weights (Unrounded g)).IsProper := by
  refine ⟨fun signal => ?_, ?_⟩
  · rw [Unrounded.isNegative_eq_false]
    cases signal <;> simp only [Weights.get, Weights.default, Unrounded.value_ratio] <;> norm_num
  · rw [Unrounded.le_eq_false]
    simp only [Weights.total, Weights.default, Unrounded.value_add, Unrounded.value_ratio,
      Unrounded.value_zero]
    norm_num

theorem Config.isAccepted_of_reals :
    (⟨.default, .standard, .standard⟩ : Config (Unrounded g)).IsAccepted := by
  refine (Service.isSound_of_defaults (fun _ => rfl) Weights.isProper_of_reals ?_).accepted
  refine List.isEmpty_iff.2 (List.filter_eq_nil_iff.2 fun limit _ => ?_)
  cases limit with
  | lifetime artifact => cases artifact <;> exact Bool.false_ne_true
  | diversityThreshold =>
    simp only [Config.breaks, RankingSettings.standard, Bool.not_eq_true, Bool.not_eq_false',
      Bool.and_eq_true, Unrounded.le_iff, Unrounded.value_zero, Unrounded.value_one,
      Unrounded.value_ratio]
    norm_num
  | decayRate | engagementWeights | timeout => simp [Config.breaks, RankingSettings.standard]
  | _ => exact Bool.false_ne_true

def futurePost : Post (Unrounded .exact) :=
  ⟨"a", "bob", "", ⟨1, 0⟩, -5, 7, [], none, none, none, none⟩

noncomputable def faintCandidate : Candidate (Unrounded .exact) (Unrounded .exact) where
  post := futurePost
  similarity := ⟨-1⟩
  engagement := ⟨0.07⟩
  temporal := ⟨1⟩
  privacy := ⟨0.1⟩
  novelty := ⟨1⟩
  seen := ⟨0.1⟩
  contentType := "text"
  vector := none

theorem faintCandidate_inRange : faintCandidate.InRange 1 := by
  refine ⟨?_, ?_, ?_, .inl ?_, ?_, ?_⟩ <;> norm_num [faintCandidate]

theorem scores_in_range_of_standard :
    let config : Config (Unrounded .exact) := ⟨.default, .standard, .standard⟩
    config.IsAccepted ∧ config.caps.peak.value = 1 ∧
      (engagement config.caps futurePost).value ∈ Set.Icc 0 1 ∧
      ∃ ranked, rank .default config.ranking.diversityThreshold [faintCandidate] = .ok ranked ∧
        ∀ s ∈ ranked, s.InRange 1 := by
  intro config
  have accepted : config.IsAccepted := Config.isAccepted_of_reals
  have peak : config.caps.peak.value = 1 := by
    simp only [config, EngagementCaps.peak, Config.caps, RankingSettings.standard,
      Unrounded.value_add, Unrounded.value_ratio]
    norm_num
  obtain ⟨⟨engaged, -⟩, -, ranks⟩ := scores_in_range (C := Unrounded .exact) accepted
  rw [peak] at engaged ranks
  refine ⟨accepted, peak, engaged futurePost, ?_⟩
  refine ranks _ .default (Weights.check_reals (fun _ => rfl) Weights.isProper_of_reals) _ _ ?_
  exact fun c member => List.mem_singleton.1 member ▸ faintCandidate_inRange

end PersonalFeed
