import PipDriver.Text

/-!
The vocabulary of the command line: its verbs, the settings that each takes, and how a setting is written.
-/

namespace PipDriver.CommandLine

inductive Verb
  | install
  | uninstall
  | freeze
  | list
deriving DecidableEq, Repr

inductive Setting
  | help
  | version
  | verbose
  | config
  | requirements
  | editable
  | program
  | user
  | folder
  | environment
  | activate
  | keepOwner
  | log
  | proxy
  | timeout
  | findLinks
  | indexUrl
  | extraIndexUrl
  | noIndex
  | mirrors
  | build
  | target
  | download
  | downloadCache
  | source
  | upgrade
  | forceReinstall
  | ignoreInstalled
  | existsAction
  | noDependencies
  | noInstall
  | noDownload
  | installOption
  | json
deriving DecidableEq, Repr

inductive Taken
  | nothing
  | text
  | path
  | action
deriving DecidableEq, Repr

namespace Setting

def long : Setting → Text
  | .help => "help"
  | .version => "version"
  | .verbose => "verbose"
  | .config => "config"
  | .requirements => "requirements"
  | .editable => "editable"
  | .program => "bin-env"
  | .user => "runas"
  | .folder => "cwd"
  | .environment => "env"
  | .activate => "activate"
  | .keepOwner => "no-chown"
  | .log => "log"
  | .proxy => "proxy"
  | .timeout => "timeout"
  | .findLinks => "find-links"
  | .indexUrl => "index-url"
  | .extraIndexUrl => "extra-index-url"
  | .noIndex => "no-index"
  | .mirrors => "mirrors"
  | .build => "build"
  | .target => "target-dir"
  | .download => "download"
  | .downloadCache => "download-cache"
  | .source => "source"
  | .upgrade => "upgrade"
  | .forceReinstall => "force-reinstall"
  | .ignoreInstalled => "ignore-installed"
  | .existsAction => "exists-action"
  | .noDependencies => "no-deps"
  | .noInstall => "no-install"
  | .noDownload => "no-download"
  | .installOption => "install-option"
  | .json => "json"

def letter? : Setting → Option Char
  | .help => some 'h'
  | .version => some 'V'
  | .verbose => some 'v'
  | .requirements => some 'r'
  | .editable => some 'e'
  | .upgrade => some 'U'
  | .ignoreInstalled => some 'I'
  | _ => none

def takes : Setting → Taken
  | .config | .program | .folder | .environment | .log => .path
  | .build | .target | .download | .downloadCache | .source => .path
  | .requirements | .editable | .user | .proxy | .timeout => .text
  | .findLinks | .indexUrl | .extraIndexUrl | .mirrors | .installOption => .text
  | .existsAction => .action
  | _ => .nothing

def repeats : Setting → Bool
  | .editable | .mirrors | .installOption => true
  | _ => false

end Setting

namespace Verb

def all : List Verb := [.install, .uninstall, .freeze, .list]

def name : Verb → Text
  | .install => "install"
  | .uninstall => "uninstall"
  | .freeze => "freeze"
  | .list => "list"

def ofName? (name : Text) : Option Verb := all.find? fun verb => verb.name = name

def common : List Setting := [.help, .verbose, .config]

def place : List Setting := [.program, .user, .folder]

def settings : Verb → List Setting
  | .install => common ++ place ++ [.requirements, .editable, .environment, .activate, .keepOwner, .log,
      .proxy, .timeout, .findLinks, .indexUrl, .extraIndexUrl, .noIndex, .mirrors, .build, .target,
      .download, .downloadCache, .source, .upgrade, .forceReinstall, .ignoreInstalled, .existsAction,
      .noDependencies, .noInstall, .noDownload, .installOption]
  | .uninstall => common ++ place ++ [.requirements, .keepOwner, .log, .proxy, .timeout]
  | .freeze => common ++ place
  | .list => common ++ place ++ [.json]

def mostOperands : Verb → Option Nat
  | .install | .uninstall => none
  | .freeze => some 0
  | .list => some 1

end Verb

end PipDriver.CommandLine
