import Acceptance.Locale
import Acceptance.Outcome

namespace Acceptance

-- The texts shown to people, one record of phrases for each bundled language.

structure Phrases where
  about : String
  languageOption : String
  runAbout : String
  initAbout : String
  configOption : String
  testsDirOption : String
  caseOption : String
  timeoutOption : String
  htmlOption : String
  jsonOption : String
  verboseOption : String
  outputOption : String
  nonInteractiveOption : String
  forceOption : String
  configParseFailed : String
  configReadFailed (path : String) : String
  staleProgram (path error : String) : String
  missingInput (path error : String) : String
  compilerNotStarted (program error : String) : String
  compilerExited (status : String) : String
  compilerTimedOut (seconds : Nat) : String
  noProgram (path : String) : String
  compilerOutputHeader : String
  configLoaded (path : String) : String
  configDefaults : String
  invalidCollaborator : String
  discoveryFailed (path : String) : String
  discovered (count : Nat) (path : String) : String
  unknownCase (name : String) : String
  caseBanner (name : String) : String
  casePassed : String
  caseCompileFailed : String
  caseMismatch (name : String) : String
  caseAborted (name : String) : String
  commandLead : String
  vmTimedOut (name : String) (seconds : Nat) : String
  mismatchArtifacts (actual expected diagnostics : String) : String
  htmlReport (path : String) : String
  reportFailed : String
  passedTotal (passed total : Nat) : String
  compileErrored (name : String) : String
  runtimeWrong (name : String) : String
  label : Outcome → String
  reportTitle : String
  reportHeading : String
  totalLabel : String
  nameHeading : String
  statusHeading : String
  durationHeading : String
  hintHeading : String
  welcome : String
  wizardDescription : String
  fileExists (path : String) : String
  useForce : String
  inputFailed : String
  wizardAborted : String
  parentNotCreated (path : String) : String
  configNotWritten (path : String) : String
  configWritten (path : String) : String
  nextSteps : String

namespace Phrases

def english : Phrases where
  about := "Acceptance-test orchestrator: compile every case, run it on the VM and compare " ++
    "against golden output."
  languageOption := "Language for messages (e.g. en, zh-CN)"
  runAbout := "Run every test case (default command)"
  initAbout := "Create a GoldenRunner.toml configuration file"
  configOption := "Path to the configuration file"
  testsDirOption := "Directory containing one subdirectory per test case"
  caseOption := "Only run the named case (repeatable)"
  timeoutOption := "Kill any collaborator running longer than SECS seconds"
  htmlOption := "Write an HTML report to this path"
  jsonOption := "Write a JSON summary to this path"
  verboseOption := "Print collaborator command lines and failure details"
  outputOption := "Where to write the configuration file"
  nonInteractiveOption :=
    "Write the default configuration without launching the interactive wizard"
  forceOption := "Overwrite an existing configuration file"
  configParseFailed := "Failed to parse the configuration file"
  configReadFailed path := s!"Failed to read configuration file: {path}"
  staleProgram path error := s!"Cannot remove stale program {path}: {error}"
  missingInput path error := s!"Cannot open case input {path}: {error}"
  compilerNotStarted program error := s!"Cannot start compiler '{program}': {error}"
  compilerExited status := s!"Compiler exited with {status}"
  compilerTimedOut seconds := s!"Compiler exceeded {seconds}s and was killed"
  noProgram path := s!"Compiler exited successfully but wrote no program to {path}"
  compilerOutputHeader := "--- compiler output ---"
  configLoaded path := s!"Loaded configuration from {path}"
  configDefaults := "No configuration file found, using built-in defaults"
  invalidCollaborator := "Invalid collaborator command line in configuration"
  discoveryFailed path := s!"Cannot discover test cases in {path}"
  discovered count path := s!"Discovered {count} test case(s) in {path}"
  unknownCase name := s!"No test case named '{name}', ignoring"
  caseBanner name := s!"----- Testing {name} -----"
  casePassed := "Passed"
  caseCompileFailed := "Failed to generate frisc code"
  caseMismatch name := s!"Test {name} failed"
  caseAborted name := s!"Run aborted while processing case {name}"
  commandLead := "Running:"
  vmTimedOut name seconds := s!"VM for {name} exceeded {seconds}s and was killed"
  mismatchArtifacts actual expected diagnostics :=
    s!"actual: {actual}  expected: {expected}  diagnostics: {diagnostics}"
  htmlReport path := s!"Generating HTML report at: {path}"
  reportFailed := "Failed to write report:"
  passedTotal passed total := s!"Passed {passed} / {total} tests"
  compileErrored name := s!"Compiler errored [{name}] ->"
  runtimeWrong name := s!"Runtime wrong [{name}] ->"
  label
    | .passed => "Passed"
    | .compileFailed => "Compile Failed"
    | .runtimeMismatch => "Runtime Mismatch"
  reportTitle := "Golden Runner Report"
  reportHeading := "Acceptance Test Report"
  totalLabel := "Total"
  nameHeading := "Case"
  statusHeading := "Status"
  durationHeading := "Duration"
  hintHeading := "Re-run"
  welcome := "Welcome to the Golden Runner configuration wizard!"
  wizardDescription :=
    "This will create a GoldenRunner.toml describing your compiler, VM and test cases."
  fileExists path := s!"Configuration file {path} already exists."
  useForce := "Use --force to overwrite it."
  inputFailed := "Failed to read user input"
  wizardAborted := "Initialization aborted."
  parentNotCreated path := s!"Failed to create directory {path}"
  configNotWritten path := s!"Failed to write configuration file {path}"
  configWritten path := s!"Configuration written to {path}"
  nextSteps := "Run `golden-runner` to execute the test cases."

def chinese : Phrases where
  about := "验收测试编排器：编译每个用例，在虚拟机上运行，并与黄金输出比较。"
  languageOption := "消息语言（例如 en, zh-CN）"
  runAbout := "运行所有测试用例（默认命令）"
  initAbout := "创建 GoldenRunner.toml 配置文件"
  configOption := "配置文件路径"
  testsDirOption := "每个测试用例占一个子目录的目录"
  caseOption := "仅运行指定名称的用例（可重复）"
  timeoutOption := "终止运行时间超过 SECS 秒的协作进程"
  htmlOption := "将 HTML 报告写入此路径"
  jsonOption := "将 JSON 摘要写入此路径"
  verboseOption := "打印协作进程命令行和失败详情"
  outputOption := "配置文件的写入位置"
  nonInteractiveOption := "不启动交互式向导，直接写出默认配置"
  forceOption := "覆盖已有的配置文件"
  configParseFailed := "解析配置文件失败"
  configReadFailed path := s!"读取配置文件失败：{path}"
  staleProgram path error := s!"无法删除过期的程序 {path}：{error}"
  missingInput path error := s!"无法打开用例输入 {path}：{error}"
  compilerNotStarted program error := s!"无法启动编译器 '{program}'：{error}"
  compilerExited status := s!"编译器退出：{status}"
  compilerTimedOut seconds := s!"编译器运行超过 {seconds} 秒，已被终止"
  noProgram path := s!"编译器成功退出，但没有写出程序 {path}"
  compilerOutputHeader := "--- 编译器输出 ---"
  configLoaded path := s!"已从 {path} 加载配置"
  configDefaults := "未找到配置文件，使用内置默认值"
  invalidCollaborator := "配置中的协作进程命令行无效"
  discoveryFailed path := s!"无法在 {path} 中发现测试用例"
  discovered count path := s!"在 {path} 中发现 {count} 个测试用例"
  unknownCase name := s!"没有名为 '{name}' 的测试用例，已忽略"
  caseBanner name := s!"----- 测试 {name} -----"
  casePassed := "通过"
  caseCompileFailed := "生成 frisc 代码失败"
  caseMismatch name := s!"测试 {name} 失败"
  caseAborted name := s!"处理用例 {name} 时运行中止"
  commandLead := "运行："
  vmTimedOut name seconds := s!"用例 {name} 的虚拟机运行超过 {seconds} 秒，已被终止"
  mismatchArtifacts actual expected diagnostics :=
    s!"实际输出：{actual}  期望输出：{expected}  诊断：{diagnostics}"
  htmlReport path := s!"正在生成 HTML 报告：{path}"
  reportFailed := "写入报告失败："
  passedTotal passed total := s!"通过 {passed} / {total} 个测试"
  compileErrored name := s!"编译出错 [{name}] ->"
  runtimeWrong name := s!"运行结果错误 [{name}] ->"
  label
    | .passed => "通过"
    | .compileFailed => "编译失败"
    | .runtimeMismatch => "输出不一致"
  reportTitle := "Golden Runner 报告"
  reportHeading := "验收测试报告"
  totalLabel := "总计"
  nameHeading := "用例"
  statusHeading := "状态"
  durationHeading := "耗时"
  hintHeading := "重新运行"
  welcome := "欢迎使用 Golden Runner 配置向导！"
  wizardDescription := "这将创建一个描述编译器、虚拟机和测试用例的 GoldenRunner.toml。"
  fileExists path := s!"配置文件 {path} 已存在。"
  useForce := "使用 --force 覆盖该文件。"
  inputFailed := "读取用户输入失败"
  wizardAborted := "初始化已中止。"
  parentNotCreated path := s!"创建目录 {path} 失败"
  configNotWritten path := s!"写入配置文件 {path} 失败"
  configWritten path := s!"配置已写入 {path}"
  nextSteps := "运行 `golden-runner` 执行测试用例。"

end Phrases

def Locale.phrases : Locale → Phrases
  | .english => .english
  | .chinese => .chinese

end Acceptance
