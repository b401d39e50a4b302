import Telemetry.Library

namespace Telemetry.Library

/-- The profile for inverters of the series Powador TL3. Their web interface serves lines of fields
that end with a semicolon. -/
def powador : String :=
  "properties.name: kaco-powador\n" ++
  "properties.maturity: testing\n" ++
  "properties.author: the78mole@github\n\n" ++
  "test.url: \"http://%\x7bhost\x7d/meta.csv\"\n" ++
  "test.expr: '\"^.*Powador.*$\"'\n\n" ++
  "vars.baseurl: \"http://%\x7bhost\x7d\"\n\n" ++
  "options.refresh: 30000\n" ++
  "options.cache: \"true\"\n\n" ++
  "values.realtime.vars: t,udc1,udc2,uac1,uac2,uac3,idc1,idc2,iac1,iac2,iac3,pdc,temp," ++
  "status\n" ++
  "values.realtime.split: '\";\"'\n" ++
  "values.realtime.url: \"%\x7bbaseurl\x7d/realtime.csv\"\n" ++
  "values.realtime.refresh: 10000\n" ++
  "values.realtime.factors: \"null,0.1,0.1,0.1,0.1,0.1,0.01,0.01,0.01,0.01,0.01,1,1,null\"\n" ++
  "values.realtime.types: Number,Number,Number,Number,Number,Number,Number,Number,Number," ++
  "Number,Number,Number,Number,Number\n" ++
  "values.realtime.transforms.status: statustable,statid,statdesc\n\n" ++
  "values.meta.vars: serno,type,mac,ip,rs485,countac,countdc,acpower,dcpower,country," ++
  "language,mmisw,dspacsw,dspdcsw\n" ++
  "values.meta.split: '\";\"'\n" ++
  "values.meta.url: \"%\x7bbaseurl\x7d/meta.csv\"\n" ++
  "values.meta.refresh: -1\n" ++
  "values.meta.types: String,String,String,String,Number,Number,Number,Number,Number," ++
  "String,String,String,String,String\n\n" ++
  "values.initlog.vars: ymd,ym,y\n" ++
  "values.initlog.split: '\";\"'\n" ++
  "values.initlog.url: \"%\x7bbaseurl\x7d/initlog.csv\"\n" ++
  "values.initlog.refresh: 3600000\n\n" ++
  "transforms.statustable.url: \"%\x7bbaseurl\x7d/statustable.csv\"\n" ++
  "transforms.statustable.expr: '\"^\\s*(\\d+)\\s*;\\s*(.*?)\\s*;?\\s*$\",statid,statdesc'\n" ++
  "transforms.statustable.types: Number,String\n" ++
  "transforms.statustable.refresh: -1\n"

/-- The files that come with the program, in a folder. -/
def packageFiles (folder : String) : Files :=
  [(Path.target (Path.below folder "profiles/kaco_powador.yaml"),
    .file (powador.toList.map fun c => UInt8.ofNat c.toNat))]

/-- The profiles that come with the program, in the order of their files in a folder. -/
def packaged (folder : String) : List Profile :=
  (ofFolder (packageFiles folder) (Path.below folder "profiles")).toOption.getD []

end Telemetry.Library
