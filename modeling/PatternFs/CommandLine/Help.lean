import PatternFs.CommandLine.Grammar

/-! Texts that the program shows on request. -/
namespace PatternFs.CommandLine

def versionText : String := "lazyfs 0.1.0\n"

def helpLines : Topic → List String
  | .program =>
    ["A virtual filesystem serving huge synthetic files from memory",
      "",
      "Usage: lazyfs <COMMAND>",
      "",
      "Commands:",
      "  mount  Mount a lazyfs filesystem",
      "  mocks  Create empty synthetic files named <pattern>_<size>_<chunksize>",
      "  help   Print this message or the help of the given subcommand(s)",
      "",
      "Options:",
      "  -h, --help     Print help",
      "  -V, --version  Print version"]
  | .mount =>
    ["Mount a lazyfs filesystem",
      "",
      "Usage: lazyfs mount [OPTIONS] <MOUNTPOINT>",
      "",
      "Arguments:",
      "  <MOUNTPOINT>  Mount point for the virtual filesystem",
      "",
      "Options:",
      "  -r, --realstore <REALSTORE>  Real directory holding .mhash and .mbinmap files",
      "  -l, --logfile <LOGFILE>      Write the log to this file instead of stderr",
      "  -c, --config <CONFIG>        JSON configuration file",
      "      --allow-other            Let other users access the mount",
      "      --fallback <FALLBACK>    Pattern for names without a hex prefix: " ++
        "counter, reject or 8 hex",
      "                               digits",
      "      --log-level <LOG_LEVEL>  Log level (overrides RUST_LOG)",
      "  -h, --help                   Print help"]
  | .mocks =>
    ["Create empty synthetic files named <pattern>_<size>_<chunksize>",
      "",
      "Usage: lazyfs mocks <DIR> <NFILES> <SIZE> <CHUNKSIZE>",
      "",
      "Arguments:",
      "  <DIR>        Directory to create the files in, usually a mount point",
      "  <NFILES>     Number of files to create",
      "  <SIZE>       Size of every file, e.g. 1gb",
      "  <CHUNKSIZE>  Chunk size recorded in the names",
      "",
      "Options:",
      "  -h, --help  Print help"]
  | .help =>
    ["Print this message or the help of the given subcommand(s)",
      "",
      "Usage: lazyfs help [COMMAND]...",
      "",
      "Arguments:",
      "  [COMMAND]...  Print help for the subcommand(s)"]

def helpText (topic : Topic) : String := "\n".intercalate (helpLines topic) ++ "\n"

end PatternFs.CommandLine
