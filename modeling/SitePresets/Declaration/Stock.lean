import SitePresets.Declaration.Basic

/-!
# The stock site

The options and plugins of a stock site.
-/

namespace SitePresets.Stock

def checkbox (name label : String) (default : Int := 1) (plugin : Option String := none) : Node :=
  .setting {
    name, plugin
    settingClass := "admin_setting_configcheckbox"
    type := "checkbox"
    visibleName := label
    default := .integer default }

def advancedFeatures : Node :=
  .page "optionalsubsystems" "Advanced features" [
    checkbox "usecomments" "Enable comments",
    checkbox "usetags" "Enable tags functionality",
    checkbox "enablenotes" "Enable notes",
    checkbox "enableblogs" "Enable blogs",
    checkbox "enablebadges" "Enable badges",
    checkbox "enableanalytics" "Analytics",
    checkbox "enabled" "Enable competencies" 1 (some "core_competency"),
    .setting {
      name := "enablemobilewebservice"
      settingClass := "admin_setting_enablemobileservice"
      type := "checkbox"
      visibleName := "Enable web services for mobile devices"
      default := .integer 0 }]

def blog : Node :=
  .page "blog" "Blog" [
    .setting {
      name := "bloglevel"
      settingClass := "admin_setting_bloglevel"
      component := some "core"
      type := "select"
      visibleName := "Blog visibility"
      default := .text "4"
      choices := some [("5", "All site users"), ("4", "Users on this site"), ("1", "Yourself"),
        ("0", "Disabled")] }]

def navigation : Node :=
  .page "navigation" "Navigation" [
    .setting {
      name := "customusermenuitems"
      settingClass := "admin_setting_configtextarea"
      type := "textarea"
      visibleName := "User menu items"
      default := .text
        "profile,moodle|/user/profile.php\npreferences,moodle|/user/preferences.php" },
    .setting {
      name := "navcourselimit"
      visibleName := "Course limit"
      default := .integer 10
      paramType := some "int" }]

def theme : Node :=
  .page "themesettings" "Theme settings" [
    checkbox "themedesignermode" "Theme designer mode" 0,
    .setting {
      name := "brandcolor"
      plugin := some "theme_boost"
      settingClass := "admin_setting_configcolourpicker"
      type := "custom"
      visibleName := "Brand colour"
      default := .text "" }]

def server : Node :=
  .category "server" "Server" [
    .page "outgoingmailconfig" "Outgoing mail configuration" [
      .setting { name := "smtphosts", visibleName := "SMTP hosts", default := .text "" },
      .setting { name := "smtpuser", visibleName := "SMTP username", default := .text "" },
      .setting {
        name := "smtppass"
        settingClass := "admin_setting_configpasswordunmask"
        type := "password"
        visibleName := "SMTP password"
        default := .text "" }],
    .page "debugging" "Debugging" [
      .setting {
        name := "debug"
        settingClass := "admin_setting_special_debug"
        type := "custom"
        visibleName := "Debug messages"
        default := .text "0"
        choices := some [("0", "NONE"), ("5", "MINIMAL"), ("15", "NORMAL"),
          ("32767", "DEVELOPER")] }]]

def privacy : Node :=
  .page "privacysettings" "Privacy settings" [
    checkbox "showdataretentionsummary" "Show data retention summary" 1 (some "tool_dataprivacy"),
    checkbox "contactdataprotectionofficer" "Contact the privacy officer" 0
      (some "tool_dataprivacy")]

def h5p : Node :=
  .page "h5psettings" "H5P settings" [
    .setting {
      name := "h5plibraryhandler"
      settingClass := "admin_settings_h5plib_handler_select"
      component := some "core_h5p"
      type := "select"
      visibleName := "H5P framework handler"
      default := .text "h5plib_v124"
      handlerType := some "h5plib" }]

def forum : Node :=
  .page "modsettingforum" "Forum" [
    .setting {
      name := "forum_maxattachments"
      visibleName := "Maximum number of attachments"
      default := .integer 9
      paramType := some "int" }]

def lesson : Node :=
  .page "modsettinglesson" "Lesson" [
    .setting {
      name := "maxanswers"
      plugin := some "mod_lesson"
      settingClass := "admin_setting_configtext_with_advanced"
      visibleName := "Maximum number of answers"
      default := .record [("value", .integer 5), ("adv", .flag true)]
      paramType := some "int" },
    .setting {
      name := "mediawidth"
      plugin := some "mod_lesson"
      visibleName := "Popup window width"
      default := .integer 640
      paramType := some "int" }]

def quiz : Node :=
  .page "modsettingquiz" "Quiz" [
    .setting {
      name := "password"
      plugin := some "quiz"
      settingClass := "admin_setting_configtext_with_advanced"
      visibleName := "Require password"
      default := .record [("value", .text ""), ("adv", .flag true)] },
    .setting {
      name := "navmethod"
      plugin := some "quiz"
      settingClass := "admin_setting_configselect_with_lock"
      type := "select"
      visibleName := "Navigation method"
      default := .record [("value", .text "free"), ("locked", .flag false), ("adv", .flag true)]
      choices := some [("free", "Free"), ("sequential", "Sequential")] },
    .setting {
      name := "shuffleanswers"
      plugin := some "quiz"
      settingClass := "admin_setting_configcheckbox_with_advanced"
      type := "checkbox"
      visibleName := "Shuffle within questions"
      default := .record [("value", .integer 1), ("adv", .flag false)] },
    .setting {
      name := "reviewoptions"
      plugin := some "quiz"
      settingClass := "admin_setting_configmulticheckbox"
      type := "multicheckbox"
      visibleName := "Review options"
      default := .text "attempt,correctness"
      choices := some [("attempt", "The attempt"), ("correctness", "Whether correct"),
        ("marks", "Marks")] }]

def tree : Node :=
  .category "root" "Site administration" [
    .category "development" "Development" [advancedFeatures],
    .category "appearance" "Appearance" [blog, navigation, theme],
    server,
    .category "privacy" "Privacy" [privacy],
    .category "h5p" "H5P" [h5p],
    .category "modules" "Plugins" [
      .category "modsettings" "Activity modules" [forum, lesson, quiz],
      .category "localplugins" "Local plugins" []]]

def plugins : List (Plugin × Int) := [
  (⟨"mod", "lesson"⟩, 1),
  (⟨"mod", "quiz"⟩, 1),
  (⟨"mod", "forum"⟩, 1),
  (⟨"mod", "chat"⟩, 0),
  (⟨"h5plib", "v124"⟩, 1),
  (⟨"h5plib", "v126"⟩, 1),
  (⟨"block", "blog_menu"⟩, 1),
  (⟨"theme", "boost"⟩, 1)]

/-- The settings that are neither exported nor applied unless somebody asks for it. -/
def sensitiveSettings : String :=
  "recaptchapublickey@@none, recaptchaprivatekey@@none, googlemapkey@@none, " ++
  "secretphrase@@none, cronremotepassword@@none, smtpuser@@none, " ++
  "smtppass@@none, proxypassword@@none, password@@quiz, " ++
  "enrolpassword@@moodlecourse, allowedip@@none, blockedip@@none"

end SitePresets.Stock
