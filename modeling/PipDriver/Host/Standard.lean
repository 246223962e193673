import PipDriver.World

/-!
An ordinary host: the usual folders at the root, and the usual programs.
-/

namespace PipDriver.Host

def standardFolders : List Location :=
  [["tmp"], ["usr"], ["usr", "bin"], ["usr", "sbin"], ["usr", "lib"], ["usr", "local"], ["etc"],
   ["home"], ["opt"], ["root"], ["srv"], ["var"], ["var", "log"], ["var", "tmp"], ["dev"], ["proc"],
   ["sys"], ["run"], ["mnt"], ["media"], ["boot"]]

def standardTools : List (Text × Tool) :=
  [("sh", .shell), ("dash", .shell), ("env", .environment), ("su", .switchUser), ("echo", .echo),
   ("printf", .printf), ("pwd", .printWorkingFolder), ("printenv", .printVariables), ("cat", .concatenate),
   ("chown", .changeOwner), ("true", .succeed), ("false", .fail), ("sleep", .sleep),
   ("basename", .baseName), ("dirname", .folderName), ("mkdir", .makeFolder), ("rmdir", .removeFolder),
   ("rm", .remove), ("touch", .touch), ("install", .install), ("mv", .move)]

def toolLocation (name : Text) : Location := ["usr", "bin", name]

def standardPrograms : List (Location × Tool) :=
  standardTools.map fun (name, tool) => (toolLocation name, tool)

def standardAccounts : List Account :=
  let known : List (Text × Nat × Text) :=
    [("root", 0, "/root"), ("daemon", 1, "/usr/sbin"), ("bin", 2, "/bin"), ("sys", 3, "/dev"),
     ("sync", 4, "/bin"), ("games", 5, "/usr/games"), ("man", 6, "/var/cache/man"),
     ("lp", 7, "/var/spool/lpd"), ("mail", 8, "/var/mail"), ("news", 9, "/var/spool/news"),
     ("uucp", 10, "/var/spool/uucp"), ("proxy", 13, "/bin"), ("www-data", 33, "/var/www"),
     ("backup", 34, "/var/backups"), ("list", 38, "/var/list"), ("irc", 39, "/run/ircd"),
     ("_apt", 42, "/nonexistent"), ("nobody", 65534, "/nonexistent")]
  known.map fun (name, number, home) => { name, number, home }

def standardGroups : List (Text × Nat) :=
  let system : List (Text × Nat) :=
    [("root", 0), ("daemon", 1), ("bin", 2), ("sys", 3), ("adm", 4), ("tty", 5), ("disk", 6), ("lp", 7),
     ("mail", 8), ("news", 9), ("uucp", 10), ("man", 12), ("proxy", 13), ("kmem", 15), ("dialout", 20),
     ("fax", 21), ("voice", 22), ("cdrom", 24), ("floppy", 25), ("tape", 26), ("sudo", 27), ("audio", 29),
     ("dip", 30), ("www-data", 33), ("backup", 34), ("operator", 37), ("list", 38), ("irc", 39)]
  let others : List (Text × Nat) :=
    [("src", 40), ("shadow", 42), ("utmp", 43), ("video", 44), ("sasl", 45), ("plugdev", 46),
     ("staff", 50), ("games", 60), ("users", 100), ("nogroup", 65534)]
  system ++ others

def standardLinks : List (Location × Entry) :=
  [(["bin"], Entry.link "usr/bin"), (["sbin"], Entry.link "usr/sbin")]

def standardDevices : List (Location × Entry) :=
  [(["dev", "null"], .device .empty), (["dev", "stdin"], .device (.channel 0)),
   (["dev", "stdout"], .device (.channel 1)), (["dev", "stderr"], .device (.channel 2))]

def programFile : Entry := .file { bytes := .empty, executable := true }

def standardDisk : Disk where
  entries :=
    standardFolders.map (fun location => (location, Entry.folder)) ++ standardLinks ++
      standardDevices ++ standardPrograms.map fun (location, _) => (location, programFile)

end PipDriver.Host

namespace PipDriver.World

def standard (folder : Path) (environment : List (Text × Text)) : World :=
  let disk := (Host.standardDisk.makeFolders [] folder).2
  { disk
    host :=
      { folder := (disk.folderAt [] folder).toOption.getD []
        environment := environment.map fun (name, value) => (name, value.encoded)
        programs := Host.standardPrograms
        accounts := Host.standardAccounts
        groups := Host.standardGroups } }

def plant (world : World) (path : Path) (entry : Entry) : World :=
  { world with disk := world.disk.plant world.host.folder path entry }

def uproot (world : World) (path : Path) : World :=
  { world with disk := world.disk.uproot world.host.folder path }

end PipDriver.World
