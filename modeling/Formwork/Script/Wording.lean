import Formwork.Locale
/-!
# The texts of scripts

The comments, log messages and help texts of a script in each locale.  The header comment has as many lines in each.
-/
namespace Formwork
namespace Script

/-- The function that a user runs (`ENTRY_FUNCTION`). -/
def entryFunction : String := "createGoogleFormFromAI"

/-- The texts of one locale. -/
structure Wording where
  /-- The header comment, line by line (`_HEADERS`). -/
  banner : List String
  /-- The notes on quiz settings (`_QUIZ_SETTINGS_NOTES`). -/
  quizNotes : List String
  /-- The label of the release of grades. -/
  release : String
  /-- Grades are released at once. -/
  immediately : String
  /-- Grades are released after a review. -/
  later : String
  /-- The label of whether correct answers are shown. -/
  correct : String
  /-- The label of whether point values are shown. -/
  points : String
  /-- Yes. -/
  yes : String
  /-- No. -/
  no : String
  /-- The message that the form was created. -/
  done : String
  /-- The label of the address of the editor. -/
  editUrl : String
  /-- The label of the address for respondents. -/
  shareUrl : String
  /-- The label of the address of the spreadsheet. -/
  sheetUrl : String
  /-- The message about an image that could not be fetched. -/
  imageFailed : String
  /-- The help text of an item whose image could not be fetched. -/
  imageHelp : String
  /-- The suffix of the title of the spreadsheet. -/
  responses : String

namespace Wording

/-- The English texts. -/
def english : Wording where
  banner := [
    "This Google Apps Script will create a new Google Form based on your specifications.",
    "To use it:",
    "1. Open a Google Sheet or Google Doc.",
    "2. Go to Extensions > Apps Script.",
    "3. Paste this entire code into the editor, replacing any existing code.",
    "4. Click the \"Save project\" icon.",
    "5. From the function dropdown, select \"createGoogleFormFromAI\" and click \"Run\".",
    "6. You will be asked to grant permissions. Follow the prompts to allow the script to run.",
    "7. A new Google Form will be created in your Google Drive."]
  quizNotes := [
    "Quiz release and visibility options cannot be set from Apps Script.",
    "After running, open the form and go to Settings > Quizzes to set:"]
  release := "Release grade: "
  immediately := "Immediately after each submission"
  later := "Later, after manual review"
  correct := "Show correct answers: "
  points := "Show point values: "
  yes := "yes"
  no := "no"
  done := "Form created successfully!"
  editUrl := "Edit URL: "
  shareUrl := "Share URL: "
  sheetUrl := "Results sheet URL: "
  imageFailed := "Could not fetch image for question "
  imageHelp := "Error: Could not load image from "
  responses := " (Responses)"

/-- The Vietnamese texts. -/
def vietnamese : Wording where
  banner := [
    "Google Apps Script này sẽ tạo một Google Form mới theo yêu cầu của bạn.",
    "Cách sử dụng:",
    "1. Mở một Google Sheet hoặc Google Doc.",
    "2. Chọn Tiện ích mở rộng > Apps Script.",
    "3. Dán toàn bộ mã này vào trình soạn thảo, thay thế mã hiện có.",
    "4. Nhấn biểu tượng \"Lưu dự án\".",
    "5. Trong danh sách hàm, chọn \"createGoogleFormFromAI\" rồi nhấn \"Chạy\".",
    "6. Bạn sẽ được yêu cầu cấp quyền. Làm theo hướng dẫn để cho phép tập lệnh chạy.",
    "7. Một Google Form mới sẽ được tạo trong Google Drive của bạn."]
  quizNotes := [
    "Không thể thiết lập tùy chọn công bố điểm và hiển thị của bài kiểm tra bằng Apps Script.",
    "Sau khi chạy, mở biểu mẫu và vào Cài đặt > Bài kiểm tra để thiết lập:"]
  release := "Công bố điểm: "
  immediately := "Ngay sau mỗi lần gửi"
  later := "Sau đó, sau khi xem xét thủ công"
  correct := "Hiển thị câu trả lời đúng: "
  points := "Hiển thị điểm: "
  yes := "có"
  no := "không"
  done := "Đã tạo biểu mẫu thành công!"
  editUrl := "URL chỉnh sửa: "
  shareUrl := "URL chia sẻ: "
  sheetUrl := "URL bảng kết quả: "
  imageFailed := "Không thể tải hình ảnh cho câu hỏi "
  imageHelp := "Lỗi: Không thể tải hình ảnh từ "
  responses := " (Câu trả lời)"

/-- The texts of a locale. -/
def ofLocale : Locale → Wording
  | .en => english
  | .vi => vietnamese

/-- Yes or no. -/
def truth (w : Wording) (value : Bool) : String := if value then w.yes else w.no

end Wording
end Script
end Formwork
