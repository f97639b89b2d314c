import Formwork.Failure
/-!
# The generation prompt

The prompt, the system instructions in each locale, the schema of the answer, and the remediation messages.
-/
namespace Formwork
namespace Generation

/-- The schema of an answer (`FORM_SCHEMA`). -/
def formSchema : Json :=
  .obj [
    ("type", .str "OBJECT"),
    ("properties", .obj [
      ("title", .obj [
        ("type", .str "STRING"),
        ("description", .str "The main title of the form, extracted from the user's input.")]),
      ("description", .obj [
        ("type", .str "STRING"),
        ("description", .str "A brief description or introduction for the form, extracted from the user's input.")]),
      ("isQuiz", .obj [
        ("type", .str "BOOLEAN"),
        ("description", .str "Set to true if the input suggests this is a quiz, test, or assessment.")]),
      ("sections", .obj [
        ("type", .str "ARRAY"),
        ("description", .str "An array of form sections. Each section represents a page in the form."),
        ("items", .obj [
          ("type", .str "OBJECT"),
          ("properties", .obj [
            ("title", .obj [
              ("type", .str "STRING"),
              ("description", .str "The title for this section/page of the form (e.g., 'Contact Information').")]),
            ("description", .obj [
              ("type", .str "STRING"),
              ("description", .str "An optional description for this section.")]),
            ("questions", .obj [
              ("type", .str "ARRAY"),
              ("description", .str "An array of question objects for this section."),
              ("items", .obj [
                ("type", .str "OBJECT"),
                ("properties", .obj [
                  ("title", .obj [
                    ("type", .str "STRING"),
                    ("description", .str "The text of the question.")]),
                  ("type", .obj [
                    ("type", .str "STRING"),
                    ("description", .str "The type of question. Must be one of: SHORT_ANSWER, PARAGRAPH, MULTIPLE_CHOICE, CHECKBOXES, IMAGE_DISPLAY.")]),
                  ("options", .obj [
                    ("type", .str "ARRAY"),
                    ("description", .str "Options for MULTIPLE_CHOICE or CHECKBOXES questions. The correct answer marker (*) should be removed from the option text."),
                    ("items", .obj [
                      ("type", .str "STRING")])]),
                  ("imageUrl", .obj [
                    ("type", .str "STRING"),
                    ("description", .str "A URL for an image associated with the question, either the content of an IMAGE_DISPLAY item or an attachment. Empty string if not applicable.")]),
                  ("required", .obj [
                    ("type", .str "BOOLEAN"),
                    ("description", .str "Whether the question is mandatory. Infer this if the input mentions 'required', '*', etc.")]),
                  ("points", .obj [
                    ("type", .str "INTEGER"),
                    ("description", .str "The point value for this question if it's part of a quiz. Omit or set to 0 if not a quiz question.")]),
                  ("correctAnswers", .obj [
                    ("type", .str "ARRAY"),
                    ("description", .str "The correct answer(s). For choice questions, this should match the text of the correct option(s)."),
                    ("items", .obj [
                      ("type", .str "STRING")])])]),
                ("required", .texts ["title", "type"])])])]),
          ("required", .texts ["title", "questions"])])])]),
    ("required", .texts ["title", "description", "sections"])]

/-- The system instructions (`SYSTEM_INSTRUCTIONS`). -/
def instructions : Locale → String
  | .en =>
    "You are an expert form and quiz generator. Analyze the following content and convert it into a structured JSON object.\n" ++
    "1. Extract the main title and description.\n" ++
    "2. Group questions into logical sections.\n" ++
    "3. For each question, identify its text, type, and required status.\n" ++
    "4. **CRITICAL (QUIZ):** If the content suggests it is a quiz (e.g., has points, correct answers), set `isQuiz: true` at the top level.\n" ++
    "5. **CORRECT ANSWERS:** For multiple choice or checkbox questions, if an option ends with an asterisk (*), it is the correct answer. Add the option's text (without the *) to the `correctAnswers` array for that question.\n" ++
    "6. **POINTS:** If a question has a correct answer, assign it a point value (e.g., 10) in the `points` field. If the user specifies a default point value, use that instead.\n" ++
    "7. **GOOGLE FORMS API JSON:** If the input is a JSON from the Google Forms API, parse it and transform it into the target schema.\n" ++
    "8. Return a single, valid JSON object matching the provided schema."
  | .vi =>
    "Bạn là một chuyên gia tạo biểu mẫu và bài kiểm tra. Hãy phân tích nội dung sau và chuyển nó thành một đối tượng JSON có cấu trúc.\n" ++
    "1. Trích xuất tiêu đề chính và mô tả.\n" ++
    "2. Nhóm câu hỏi vào các phần hợp lý.\n" ++
    "3. Đối với mỗi câu hỏi, xác định văn bản, loại, và trạng thái bắt buộc.\n" ++
    "4. **QUAN TRỌNG (QUIZ):** Nếu nội dung gợi ý đây là một bài kiểm tra (ví dụ: có điểm, có đáp án đúng), hãy đặt `isQuiz: true` ở cấp độ cao nhất.\n" ++
    "5. **ĐÁP ÁN ĐÚNG:** Đối với câu hỏi trắc nghiệm hoặc hộp kiểm, nếu một lựa chọn kết thúc bằng dấu hoa thị (*), đó là câu trả lời đúng. Hãy thêm văn bản của lựa chọn đó (không có dấu *) vào mảng `correctAnswers` cho câu hỏi đó.\n" ++
    "6. **ĐIỂM SỐ:** Nếu một câu hỏi có đáp án đúng, hãy gán cho nó một số điểm (ví dụ: 10 điểm) vào trường `points`. Nếu người dùng chỉ định một số điểm mặc định, hãy sử dụng số điểm đó.\n" ++
    "7. **GOOGLE FORMS API JSON:** Nếu đầu vào là JSON từ API Google Forms, hãy phân tích nó và chuyển đổi sang schema mục tiêu.\n" ++
    "8. Chỉ trả về một đối tượng JSON hợp lệ duy nhất khớp với schema đã cung cấp."

/-- The remediation messages (`REMEDIATIONS`). -/
def remediation : Locale → GenerationFailure → String
  | .en, .safetyBlocked =>
    "The request was blocked due to safety settings. Please modify your input."
  | .en, .invalidKey =>
    "The Gemini API key is missing or not valid. Open settings and check GEMINI_API_KEY."
  | .en, .empty =>
    "The model returned an empty response. Try again or add more detail to your input."
  | .en, .other =>
    "Failed to generate a form definition from the provided text."
  | .vi, .safetyBlocked =>
    "Yêu cầu bị chặn do cài đặt an toàn. Vui lòng chỉnh sửa nội dung nhập."
  | .vi, .invalidKey =>
    "Khóa API Gemini bị thiếu hoặc không hợp lệ. Mở phần cài đặt và kiểm tra GEMINI_API_KEY."
  | .vi, .empty =>
    "Mô hình trả về phản hồi trống. Hãy thử lại hoặc bổ sung thêm chi tiết."
  | .vi, .other =>
    "Không thể tạo biểu mẫu từ nội dung đã cung cấp."

/-- The remediation message for values of a locale and a reason (`remediation_message`). -/
def remediationFor (locale reason : Json) : Except Problem String := do
  let locale ← Locale.ofJson locale
  match reason.text?.bind GenerationFailure.ofName? with
  | some reason => return remediation locale reason
  | none =>
    match reason with
    | .arr _ | .obj _ => throw (.badType s!"unhashable type: '{reason.typeName}'")
    | _ => throw (.missingKey reason)

/-- The prompt for a text (`build_form_prompt`). -/
def prompt (text : String) : String :=
  s!"Here is the content to analyze:\n---\n{text}\n---\n"

end Generation
end Formwork
