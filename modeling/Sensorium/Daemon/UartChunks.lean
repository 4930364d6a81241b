import Sensorium.Daemon.TemplateStates

/-!
# A UART that answers lines

Where only lines are answered, `handle_uart` reads a stream: what it replies to the chunks of a
stream, and the line that it has started at the end, depend on their bytes alone.
-/

namespace Sensorium.Daemon

open Lib

namespace UartTemplate

variable {t : UartTemplate}

/-- Calls of `handle_uart` one after another, with all that they return. -/
def handleChunks (t : UartTemplate) : List (List UInt8) → UartTemplate × List UInt8
  | [] => (t, [])
  | chunk :: chunks =>
    let r := t.handleUart chunk
    let rest := handleChunks r.1 chunks
    (rest.1, r.2 ++ rest.2)

/-- No echo, no binary and no default response, and no complete line in the buffer. -/
structure AnswersLines (t : UartTemplate) : Prop where
  echo : t.echo = false
  binary : t.binaryResponses = []
  default : t.defaultResponse = []
  started : 10 ∉ t.lineBuffer

/-- The buffer after `data`; without line responses it is never looked at. -/
def started (t : UartTemplate) (data : List UInt8) : List UInt8 :=
  if t.lineResponses = [] then t.lineBuffer else unterminated 10 (t.lineBuffer ++ data)

theorem notMem_started (h : t.AnswersLines) (data : List UInt8) : 10 ∉ t.started data := by
  unfold started
  split
  · exact h.started
  · exact notMem_unterminated _

theorem lineReply_nil (h : t.lineResponses = []) (raw : List UInt8) : t.lineReply raw = [] := by
  unfold lineReply
  rw [h]
  rfl

theorem lineReplies_started (h : t.AnswersLines) (data : List UInt8) :
    t.lineReplies data =
      (t.started data, (lines 10 (t.lineBuffer ++ data)).flatMap t.lineReply) := by
  rw [lineReplies_eq, started]
  by_cases hlooked : t.lineResponses = []
  · have hnone : (lines 10 (t.lineBuffer ++ data)).flatMap t.lineReply = [] :=
      List.flatMap_eq_nil_iff.mpr fun raw _ => lineReply_nil hlooked raw
    rw [if_neg fun hboth => hboth.1 hlooked, if_pos hlooked, hnone]
  · rw [if_neg hlooked]
    by_cases hdata : data = []
    · rw [if_neg fun hboth => hboth.2 hdata, hdata, List.append_nil, unterminated_eq_self h.started,
        lines_eq_nil_of_notMem h.started]
      rfl
    · rw [if_pos ⟨hlooked, hdata⟩]

/-- A chunk is answered with the replies to the lines that it completes. -/
theorem handleUart_lines (h : t.AnswersLines) (data : List UInt8) :
    t.handleUart data = ({ t with lineBuffer := t.started data },
      (lines 10 (t.lineBuffer ++ data)).flatMap t.lineReply) := by
  have hdirect : t.directReply data = [] := by
    unfold directReply
    rw [h.echo, h.binary]
    rfl
  unfold handleUart
  dsimp only
  rw [hdirect, lineReplies_started h, List.nil_append]
  refine Prod.ext rfl ?_
  dsimp only
  split
  · rename_i hnone
    rw [h.default, hnone.1]
  · rfl

theorem AnswersLines.next (h : t.AnswersLines) (data : List UInt8) :
    AnswersLines { t with lineBuffer := t.started data } :=
  { h with started := notMem_started h data }

theorem started_append (t : UartTemplate) (data rest : List UInt8) :
    ({ t with lineBuffer := t.started data } : UartTemplate).started rest =
      t.started (data ++ rest) := by
  unfold started
  dsimp only
  split
  · rfl
  · rw [← List.append_assoc, unterminated_append (t.lineBuffer ++ data)]

theorem lineReplies_append (t : UartTemplate) (data rest : List UInt8) :
    (lines 10 (t.lineBuffer ++ data)).flatMap t.lineReply ++
        (lines 10 (t.started data ++ rest)).flatMap t.lineReply =
      (lines 10 (t.lineBuffer ++ (data ++ rest))).flatMap t.lineReply := by
  unfold started
  split
  · rename_i hnone
    simp only [List.flatMap_eq_nil_iff.mpr fun raw _ => lineReply_nil hnone raw, List.append_nil]
  · rw [← List.append_assoc, lines_append (t.lineBuffer ++ data), List.flatMap_append]

/-- Every complete line of the stream is answered once, in order, and the rest is kept. -/
theorem handleChunks_eq (h : t.AnswersLines) (chunks : List (List UInt8)) :
    t.handleChunks chunks = ({ t with lineBuffer := t.started chunks.flatten },
      (lines 10 (t.lineBuffer ++ chunks.flatten)).flatMap t.lineReply) := by
  induction chunks generalizing t with
  | nil =>
    -- no chunk: the started line is kept, also where it is never looked at
    have hself : t.started [] = t.lineBuffer := by
      unfold started
      rw [List.append_nil, unterminated_eq_self h.started, ite_self]
    rw [handleChunks, List.flatten_nil, hself, List.append_nil, lines_eq_nil_of_notMem h.started]
    rfl
  | cons chunk chunks ih =>
    rw [handleChunks, handleUart_lines h]
    dsimp only
    -- the lines of the whole stream are those of the chunk and those behind its started line
    rw [ih (h.next chunk), List.flatten_cons, started_append, ← lineReplies_append]
    rfl

end UartTemplate

/-- Two ways to cut one stream get the same replies and leave the same started line, which has no
newline; the reply has the response of each complete line once, and of nothing else. -/
theorem uart_lines_unchunked {t : UartTemplate} (h : t.AnswersLines)
    {chunks chunks' : List (List UInt8)} (hsame : chunks.flatten = chunks'.flatten) :
    t.handleChunks chunks = t.handleChunks chunks' ∧
      10 ∉ (t.handleChunks chunks).1.lineBuffer ∧
      (t.handleChunks chunks).1.fixed = t.fixed ∧
      (t.handleChunks chunks).2 =
        (lines 10 (t.lineBuffer ++ chunks.flatten)).flatMap t.lineReply := by
  rw [UartTemplate.handleChunks_eq h, UartTemplate.handleChunks_eq h, hsame]
  exact ⟨rfl, UartTemplate.notMem_started h _, rfl, rfl⟩

def echoless : UartTemplate :=
  ⟨false, [(text "id?", [0x6f, 0x6b])], [], [], [], false, false, [0x69]⟩

/-- The second chunk starts between the carriage return and the newline. -/
theorem uart_lines_unchunked_crlf :
    echoless.handleChunks [[0x64, 0x3f, 13], [10, 0x69]] =
        echoless.handleChunks [[0x64, 0x3f, 13, 10, 0x69]] ∧
      (echoless.handleChunks [[0x64, 0x3f, 13], [10, 0x69]]).2 = [0x6f, 0x6b] := by
  have hanswers : echoless.AnswersLines := ⟨rfl, rfl, rfl, by decide⟩
  obtain ⟨hcut, -, -, hreply⟩ := @uart_lines_unchunked echoless hanswers
    [[0x64, 0x3f, 13], [10, 0x69]] [[0x64, 0x3f, 13, 10, 0x69]] rfl
  exact ⟨hcut, hreply.trans (by decide)⟩

end Sensorium.Daemon
