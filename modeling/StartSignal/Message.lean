/-
# StartSignal.Message -- what a controller may say

One text has a meaning, the token `start`; it must match exactly, without blanks
around it and in lower case.  Every other text is noise and is kept as it came.
-/

namespace StartSignal

def startToken : String := "start"

inductive Message where
  /-- The start signal. -/
  | start
  /-- Any text taken as noise. -/
  | other (text : String)
deriving DecidableEq, Repr

namespace Message

def decode (text : String) : Message := if text = startToken then .start else .other text

def text : Message → String
  | .start => startToken
  | .other t => t

def isStart : Message → Bool
  | .start => true
  | .other _ => false

@[simp] theorem text_decode (t : String) : (decode t).text = t := by
  unfold decode; split
  · rename_i same; simp [text, same]
  · rfl

theorem isStart_iff {m : Message} : m.isStart = true ↔ m = .start := by
  cases m <;> simp [isStart]

theorem isStart_decode (t : String) : (decode t).isStart = true ↔ t = startToken := by
  unfold decode; split <;> simp_all [isStart]

end Message

end StartSignal
