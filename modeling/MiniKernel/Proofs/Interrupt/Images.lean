/-
**Reading the image of a frame.**

* `Frame.Reading` — the three ways to read an image: too few words for any frame, too few for one
  from outside the kernel, or a frame's own image with whatever comes after it.
* `Frame.reading` — **every image is read in one of them**; `Frame.ofWords_eq_ok_iff` — it is read as
  the frame whose image it starts with.
* `Frame.readable_iff` — which images can be read; `Frame.ofWords_few` and `Frame.ofWords_cut` — why
  the others cannot.
* `Frame.ReadsBack` — what a frame that was read says of its words; `Frame.readsBack` — **every frame
  that is read says it**.
-/

import MiniKernel.Interrupt.Frame

namespace MiniKernel.Frame

variable {words rest : List UInt32} {frame : Frame}

theorem length_toWords (frame : Frame) : frame.toWords.length = wordsNeeded frame.cs := by
  unfold toWords wordsNeeded fromOutside
  by_cases inside : level frame.cs = 0 <;> simp [inside, kernelWords, userWords]

/-- **The ways an image is read.** -/
inductive Reading : List UInt32 → Except FrameRefusal Frame → Prop
  | few {words : List UInt32} (few : words.length < kernelWords) :
    Reading words (.error (.truncated kernelWords words.length))
  | cut {words : List UInt32} {cs : UInt32} (enough : kernelWords ≤ words.length)
    (there : words[csPosition]? = some cs) (outside : level cs ≠ 0)
    (cut : words.length < userWords) :
    Reading words (.error (.truncated userWords words.length))
  | whole {frame : Frame} (formed : frame.WellFormed) (rest : List UInt32) :
    Reading (frame.toWords ++ rest) (.ok frame)

/-- **Every image is read in one of these ways.** -/
theorem reading (words : List UInt32) : Reading words (ofWords words) := by
  unfold ofWords
  split
  · rename_i ds edi esi ebp esp ebx edx ecx eax number errorCode eip cs eflags rest
    dsimp only
    by_cases inside : level cs = 0
    · rw [if_pos inside]
      have formed : WellFormed
          { ds, edi, esi, ebp, esp, ebx, edx, ecx, eax, number, errorCode, eip, cs, eflags } :=
        fun _ => ⟨rfl, rfl⟩
      have whole := Reading.whole formed rest
      rwa [toWords_inside inside] at whole
    · rw [if_neg inside]
      split
      · rename_i useresp ss rest
        have formed : WellFormed
            { ds, edi, esi, ebp, esp, ebx, edx, ecx, eax, number, errorCode, eip, cs, eflags,
              useresp, ss } :=
          fun kernel => absurd kernel inside
        have whole := Reading.whole formed rest
        rwa [toWords_outside inside] at whole
      · rename_i short
        refine .cut (by simp [kernelWords]) rfl inside ?_
        rcases rest with _ | ⟨useresp, _ | ⟨ss, rest⟩⟩
        · simp [userWords]
        · simp [userWords]
        · exact absurd rfl (short useresp ss rest)
  · rename_i short
    refine .few (Nat.lt_of_not_le fun enough => ?_)
    -- Fourteen words and more are read.
    rcases words with _ | ⟨_, _ | ⟨_, _ | ⟨_, _ | ⟨_, _ | ⟨_, _ | ⟨_, _ | ⟨_, _ | ⟨_, _ | ⟨_, _ |
      ⟨_, _ | ⟨_, _ | ⟨_, _ | ⟨_, _ | ⟨_, rest⟩⟩⟩⟩⟩⟩⟩⟩⟩⟩⟩⟩⟩⟩
    all_goals
      first
      | exact short _ _ _ _ _ _ _ _ _ _ _ _ _ _ _ rfl
      | simp [kernelWords] at enough

/-! ### What is read -/

/-- **An image is read as the frame whose image it starts with.** -/
theorem ofWords_eq_ok_iff :
    ofWords words = .ok frame ↔ frame.WellFormed ∧ frame.toWords <+: words := by
  constructor
  · intro read
    have reading := reading words
    rw [read] at reading
    cases reading with
    | whole formed rest => exact ⟨formed, List.prefix_append _ _⟩
  · rintro ⟨formed, rest, rfl⟩
    exact ofWords_append formed rest

theorem getElem?_csPosition (frame : Frame) (rest : List UInt32) :
    (frame.toWords ++ rest)[csPosition]? = some frame.cs := rfl

theorem kernelWords_le_wordsNeeded (cs : UInt32) : kernelWords ≤ wordsNeeded cs := by
  unfold wordsNeeded
  split <;> decide

/-- What is read has as many words as its `cs` asks for. -/
theorem wordsNeeded_le (frame : Frame) (rest : List UInt32) :
    wordsNeeded frame.cs ≤ (frame.toWords ++ rest).length := by
  rw [List.length_append, length_toWords]
  exact Nat.le_add_right _ _

/-- Fewer words than any frame has are refused. -/
theorem ofWords_few (few : words.length < kernelWords) :
    ofWords words = .error (.truncated kernelWords words.length) := by
  have reading := reading words
  generalize ofWords words = answer at reading
  cases reading with
  | few => rfl
  | cut enough => exact absurd few (Nat.not_lt.mpr enough)
  | @whole frame _ rest =>
    have enough := Nat.le_trans (kernelWords_le_wordsNeeded _) (frame.wordsNeeded_le rest)
    exact absurd few (Nat.not_lt.mpr enough)

/-- So are fewer words than a frame from outside the kernel has. -/
theorem ofWords_cut {cs : UInt32} (enough : kernelWords ≤ words.length)
    (there : words[csPosition]? = some cs) (outside : level cs ≠ 0)
    (cut : words.length < userWords) :
    ofWords words = .error (.truncated userWords words.length) := by
  have reading := reading words
  generalize ofWords words = answer at reading
  cases reading with
  | few few => exact absurd few (Nat.not_lt.mpr enough)
  | cut => rfl
  | @whole frame _ rest =>
    cases there
    have long := frame.wordsNeeded_le rest
    rw [wordsNeeded, if_neg outside] at long
    exact absurd cut (Nat.not_lt.mpr long)

/-- **An image with the words its `cs` asks for is read.** -/
theorem ofWords_ok {cs : UInt32} (there : words[csPosition]? = some cs)
    (long : wordsNeeded cs ≤ words.length) :
    ∃ frame, ofWords words = .ok frame ∧ words[9]? = some frame.number := by
  have reading := reading words
  generalize ofWords words = answer at reading
  cases reading with
  | few few =>
    exact absurd few (Nat.not_lt.mpr (Nat.le_trans (kernelWords_le_wordsNeeded cs) long))
  | cut _ found outside cut =>
    cases there.symm.trans found
    rw [wordsNeeded, if_neg outside] at long
    exact absurd cut (Nat.not_lt.mpr long)
  | @whole frame _ rest => exact ⟨frame, rfl, rfl⟩

/-- **An image can be read** if it has the words of any frame, and those of a frame from outside the
kernel if its `cs` tells one. -/
theorem readable_iff : (∃ frame, ofWords words = .ok frame) ↔
    kernelWords ≤ words.length ∧
      ∀ cs, words[csPosition]? = some cs → level cs ≠ 0 → userWords ≤ words.length := by
  constructor
  · rintro ⟨frame, read⟩
    obtain ⟨-, rest, rfl⟩ := ofWords_eq_ok_iff.mp read
    have long := frame.wordsNeeded_le rest
    refine ⟨Nat.le_trans (kernelWords_le_wordsNeeded _) long, fun cs there outside => ?_⟩
    cases there
    rwa [wordsNeeded, if_neg outside] at long
  · rintro ⟨enough, outer⟩
    have inside : csPosition < words.length := Nat.lt_of_lt_of_le (by decide) enough
    have there : words[csPosition]? = some words[csPosition] := List.getElem?_eq_getElem inside
    have long : wordsNeeded words[csPosition] ≤ words.length := by
      unfold wordsNeeded
      split
      · exact enough
      · rename_i outside
        exact outer _ there outside
    obtain ⟨frame, read, -⟩ := ofWords_ok there long
    exact ⟨frame, read⟩

/-- **A frame that was read holds what it was read from**: written back it is the words that count,
no word after them matters, and one from the kernel itself has no stack of its own. -/
structure ReadsBack (words : List UInt32) (frame : Frame) : Prop where
  selector : words[csPosition]? = some frame.cs
  image : frame.toWords = words.take (wordsNeeded frame.cs)
  later (others : List UInt32)
    (same : others.take (wordsNeeded frame.cs) = words.take (wordsNeeded frame.cs)) :
    ofWords others = .ok frame
  inside (kernel : level frame.cs = 0) :
    frame.useresp = 0 ∧ frame.ss = 0 ∧ frame.outerStack? = none
  outside (outer : level frame.cs ≠ 0) : frame.outerStack? = some (frame.useresp, frame.ss)

theorem readsBack (read : ofWords words = .ok frame) : ReadsBack words frame := by
  obtain ⟨formed, rest, rfl⟩ := ofWords_eq_ok_iff.mp read
  have image : (frame.toWords ++ rest).take (wordsNeeded frame.cs) = frame.toWords := by
    rw [← length_toWords, List.take_left]
  refine ⟨frame.getElem?_csPosition rest, image.symm, fun others same => ?_, fun kernel => ?_,
    fun outer => ?_⟩
  · refine ofWords_eq_ok_iff.mpr ⟨formed, ?_⟩
    rw [image] at same
    rw [← same]
    exact List.take_prefix _ _
  · obtain ⟨stack, segment⟩ := formed kernel
    exact ⟨stack, segment, by simp [outerStack?, fromOutside, kernel]⟩
  · simp [outerStack?, fromOutside, outer]

end MiniKernel.Frame
