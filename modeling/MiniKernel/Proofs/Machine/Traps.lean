/-
**A trap has the words of its frame.**

* `Machine.attend` — what becomes of an image once it was read.
* `Machine.trapImage` — the words in memory that a trap takes for the image;
  `Machine.trapImage_read` — they are the image of a frame, and `Machine.trap_attends` — that frame
  is attended to, so no trap is stopped for want of words.
* `Machine.images_exact` — **reading and writing an image undo each other**, and the two rules for
  its length agree.
-/

import MiniKernel.Machine.Entry
import MiniKernel.Proofs.Interrupt.Images

namespace MiniKernel.Machine

open MiniKernel.Frame

variable {C ε : Type} [Controller C] {words memory : List UInt32} {frame : Frame}

/-- What becomes of an image once it was read. -/
def attend (halt : Action (Machine C) ε Unit) (frame : Frame) (words : List UInt32) :
    Action (Machine C) ε (List UInt32) := do
  if frame.vector? = some systemCallVector then
    let eax ← serve halt frame
    return words.set eaxPosition eax
  else
    interrupt frame
    return words

theorem entry_read (halt : Action (Machine C) ε Unit) (read : ofWords words = .ok frame) :
    entry halt words = attend halt frame words := by
  unfold entry entryWith
  rw [read]
  rfl

/-- **The words in memory that a trap takes for the image**, as many as the saved `cs` tells. -/
def trapImage (memory : List UInt32) : List UInt32 :=
  memory.take (wordsNeeded (memory[csPosition]?.getD 0))

theorem trapImage_eq {cs : UInt32} (there : memory[csPosition]? = some cs) :
    trapImage memory = memory.take (wordsNeeded cs) := by
  rw [trapImage, there]
  rfl

/-- **They are the image of a frame**, as long as there are the words that the saved `cs` tells. -/
theorem trapImage_read {cs : UInt32} (there : memory[csPosition]? = some cs)
    (long : wordsNeeded cs ≤ memory.length) :
    ∃ frame, ofWords (trapImage memory) = .ok frame ∧ frame.toWords = trapImage memory ∧
      frame.cs = cs := by
  obtain ⟨frame, read, -⟩ := ofWords_ok there long
  have back := readsBack read
  cases there.symm.trans back.selector
  rw [trapImage_eq there]
  refine ⟨frame, back.later _ ?_, back.image, rfl⟩
  rw [List.take_take, Nat.min_self]

theorem userWords_le_frameMemory (words : List UInt32) :
    userWords ≤ (frameMemory words).length := by
  unfold frameMemory
  rw [List.length_append, List.length_replicate]
  omega

/-- **A trap attends to the frame in memory**, and is not stopped for want of words. -/
theorem trap_attends (halt : Action (Machine C) ε Unit) (words : List UInt32) :
    ∃ frame, ofWords (trapImage (frameMemory words)) = .ok frame ∧
      frame.toWords = trapImage (frameMemory words) ∧
      trap halt words = (do
        let after ← attend halt frame frame.toWords
        return (after ++ (frameMemory words).drop (wordsNeeded frame.cs)).take words.length) := by
  have long := userWords_le_frameMemory words
  obtain ⟨cs, there⟩ : ∃ cs, (frameMemory words)[csPosition]? = some cs :=
    ⟨_, List.getElem?_eq_getElem (Nat.lt_of_lt_of_le (by decide) long)⟩
  have few : wordsNeeded cs ≤ userWords := by
    unfold wordsNeeded
    split <;> decide
  obtain ⟨frame, read, image, same⟩ := trapImage_read there (Nat.le_trans few long)
  refine ⟨frame, read, image, ?_⟩
  rw [image, same, ← entry_read halt read, trapImage_eq there]
  unfold trap
  dsimp only
  rw [there]
  rfl

/-- **Reading and writing an image undo each other.** An image is read just when it has fourteen
words, and sixteen if its `cs` tells another ring than the kernel's; what was read holds the words
that count and no others (`Frame.ReadsBack`), and else the refusal tells how many words were needed
and how many there were. Every well-formed frame is read from its own image. A trap takes as many
words as the `cs` in memory tells, which are the image of a frame, and goes on with that frame. -/
theorem images_exact (halt : Action (Machine C) ε Unit) (words : List UInt32) :
    ((∃ frame, ofWords words = .ok frame) ↔ kernelWords ≤ words.length ∧
      ∀ cs, words[csPosition]? = some cs → level cs ≠ 0 → userWords ≤ words.length) ∧
    (∀ frame, ofWords words = .ok frame → ReadsBack words frame) ∧
    (words.length < kernelWords →
      ofWords words = .error (.truncated kernelWords words.length)) ∧
    (∀ cs, kernelWords ≤ words.length → words[csPosition]? = some cs → level cs ≠ 0 →
      words.length < userWords → ofWords words = .error (.truncated userWords words.length)) ∧
    (∀ frame : Frame, frame.WellFormed → ofWords frame.toWords = .ok frame) ∧
    (∀ cs, words[csPosition]? = some cs → wordsNeeded cs ≤ words.length →
      ∃ frame, ofWords (trapImage words) = .ok frame ∧ frame.toWords = trapImage words) ∧
    ∃ frame, ofWords (trapImage (frameMemory words)) = .ok frame ∧
      trap halt words = (do
        let after ← attend halt frame frame.toWords
        return (after ++ (frameMemory words).drop (wordsNeeded frame.cs)).take words.length) := by
  refine ⟨readable_iff, fun frame => readsBack, ofWords_few,
    fun cs enough there outside => ofWords_cut enough there outside, fun frame formed => ?_,
    fun cs there long => ?_, ?_⟩
  · have whole := ofWords_append formed []
    rwa [List.append_nil] at whole
  · obtain ⟨frame, read, image, -⟩ := trapImage_read there long
    exact ⟨frame, read, image⟩
  · obtain ⟨frame, read, -, attends⟩ := trap_attends halt words
    exact ⟨frame, read, attends⟩

/-- The image of a page fault in ring 3, and a word that is not part of it. -/
def outerImage : List UInt32 :=
  [0x10, 1, 2, 3, 4, 5, 6, 7, 8, 14, 2, 0xC0001234, 0x1B, 0x202, 0xBFFFF000, 0x23, 0x77]

/-- It is read with the stack it came from, and not without the last word of that. -/
theorem images_exact_outerImage :
    (∃ frame, ofWords outerImage = .ok frame ∧ frame.toWords = outerImage.take 16 ∧
      frame.outerStack? = some (frame.useresp, frame.ss)) ∧
    ofWords (outerImage.take 15) = .error (.truncated 16 15) := by
  have enough : kernelWords ≤ outerImage.length ∧
      ∀ cs, outerImage[csPosition]? = some cs → level cs ≠ 0 → userWords ≤ outerImage.length :=
    ⟨by decide, fun _ _ _ => by decide⟩
  have outside : level 0x1B ≠ 0 := by decide
  have halt : Action (Machine StoredMask) DispatchRefusal Unit := tickHalt
  obtain ⟨readable, back, -⟩ := images_exact halt outerImage
  obtain ⟨frame, read⟩ := readable.mpr enough
  have holds := back frame read
  have ring : frame.cs = 0x1B := (Option.some.inj holds.selector).symm
  have count : wordsNeeded frame.cs = 16 := by
    rw [ring]
    rfl
  refine ⟨⟨frame, read, ?_, holds.outside (by rwa [ring])⟩, ?_⟩
  · rw [holds.image, count]
  · exact (images_exact halt (outerImage.take 15)).2.2.2.1 0x1B (by decide) rfl outside (by decide)

end MiniKernel.Machine
