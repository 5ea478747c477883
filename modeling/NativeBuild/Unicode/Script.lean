import NativeBuild.Unicode.Partition

/-!
# Scripts

The tables of the Unicode properties `Script` and `Script_Extensions`, and the names of the scripts.
Each code point has one script; those that are used with several others, or with one other, are
listed apart with all that they are used with.
-/

namespace NativeBuild.Unicode

/-- The code points in order: the four letters of a script, and how many follow each other in it. -/
def scriptRuns : String :=
  String.join [
    "Zyyy41Latn1aZyyy6Latn1aZyyy2fLatn1ZyyyfLatn1Zyyy5Latn17Zyyy1Latn1fZyyy1Latn1c1Zyyy27Latn5Zyyy",
    "5Bopo2Zyyy14Zinh70Grek4Zyyy1Grek3Zzzz2Grek4Zyyy1Grek1Zzzz4Grek1Zyyy1Grek1Zyyy1Grek3Zzzz1Grek1",
    "Zzzz1Grek14Zzzz1Grek3fCopteGrek10Cyrl85Zinh2Cyrla9Zzzz1Armn26Zzzz2Armn32Zzzz2Armn3Zzzz1Hebr37",
    "Zzzz8Hebr1bZzzz4Hebr6ZzzzbArab5Zyyy1Arab6Zyyy1ArabeZyyy1Arab3Zyyy1Arab20Zyyy1ArabaZinhbArab1a",
    "Zinh1Arab6cZyyy1Arab22SyrceZzzz1Syrc3cZzzz2Syrc3Arab30Thaa32ZzzzeNkoo3bZzzz2Nkoo3Samr2eZzzz2S",
    "amrfZzzz1Mand1cZzzz2Mand1Zzzz1SyrcbZzzz5Arab1fZzzz1Arab2Zzzz5Arab4bZyyy1Arab1dDeva51Zinh4Deva",
    "fZyyy2Deva1aBeng4Zzzz1Beng8Zzzz2Beng2Zzzz2Beng16Zzzz1Beng7Zzzz1Beng1Zzzz3Beng4Zzzz2Beng9Zzzz2",
    "Beng2Zzzz2Beng4Zzzz8Beng1Zzzz4Beng2Zzzz1Beng5Zzzz2Beng19Zzzz2Guru3Zzzz1Guru6Zzzz4Guru2Zzzz2Gu",
    "ru16Zzzz1Guru7Zzzz1Guru2Zzzz1Guru2Zzzz1Guru2Zzzz2Guru1Zzzz1Guru5Zzzz4Guru2Zzzz2Guru3Zzzz3Guru",
    "1Zzzz7Guru4Zzzz1Guru1Zzzz7Guru11ZzzzaGujr3Zzzz1Gujr9Zzzz1Gujr3Zzzz1Gujr16Zzzz1Gujr7Zzzz1Gujr2",
    "Zzzz1Gujr5Zzzz2GujraZzzz1Gujr3Zzzz1Gujr3Zzzz2Gujr1ZzzzfGujr4Zzzz2GujrcZzzz7Gujr7Zzzz1Orya3Zzz",
    "z1Orya8Zzzz2Orya2Zzzz2Orya16Zzzz1Orya7Zzzz1Orya2Zzzz1Orya5Zzzz2Orya9Zzzz2Orya2Zzzz2Orya3Zzzz7",
    "Orya3Zzzz4Orya2Zzzz1Orya5Zzzz2Orya12ZzzzaTaml2Zzzz1Taml6Zzzz3Taml3Zzzz1Taml4Zzzz3Taml2Zzzz1Ta",
    "ml1Zzzz1Taml2Zzzz3Taml2Zzzz3Taml3Zzzz3TamlcZzzz4Taml5Zzzz3Taml3Zzzz1Taml4Zzzz2Taml1Zzzz6Taml1",
    "ZzzzeTaml15Zzzz5TeludZzzz1Telu3Zzzz1Telu17Zzzz1Telu10Zzzz2Telu9Zzzz1Telu3Zzzz1Telu4Zzzz7Telu2",
    "Zzzz1Telu3Zzzz2Telu1Zzzz2Telu4Zzzz2TeluaZzzz7Telu9KndadZzzz1Knda3Zzzz1Knda17Zzzz1KndaaZzzz1Kn",
    "da5Zzzz2Knda9Zzzz1Knda3Zzzz1Knda4Zzzz7Knda2Zzzz6Knda2Zzzz1Knda4Zzzz2KndaaZzzz1Knda3ZzzzcMlymd",
    "Zzzz1Mlym3Zzzz1Mlym33Zzzz1Mlym3Zzzz1Mlym6Zzzz4Mlym10Zzzz2Mlym1aZzzz1Sinh3Zzzz1Sinh12Zzzz3Sinh",
    "18Zzzz1Sinh9Zzzz1Sinh1Zzzz2Sinh7Zzzz3Sinh1Zzzz4Sinh6Zzzz1Sinh1Zzzz1Sinh8Zzzz6SinhaZzzz2Sinh3Z",
    "zzzcThai3aZzzz4Zyyy1Thai1cZzzz25Laoo2Zzzz1Laoo1Zzzz1Laoo5Zzzz1Laoo18Zzzz1Laoo1Zzzz1Laoo17Zzzz",
    "2Laoo5Zzzz1Laoo1Zzzz1Laoo7Zzzz1LaooaZzzz2Laoo4Zzzz20Tibt48Zzzz1Tibt24Zzzz4Tibt27Zzzz1Tibt24Zz",
    "zz1TibtfZzzz1Tibt7Zyyy4Tibt2Zzzz25Mymra0Geor26Zzzz1Geor1Zzzz5Geor1Zzzz2Geor2bZyyy1Geor4Hang10",
    "0Ethi49Zzzz1Ethi4Zzzz2Ethi7Zzzz1Ethi1Zzzz1Ethi4Zzzz2Ethi29Zzzz1Ethi4Zzzz2Ethi21Zzzz1Ethi4Zzzz",
    "2Ethi7Zzzz1Ethi1Zzzz1Ethi4Zzzz2EthifZzzz1Ethi39Zzzz1Ethi4Zzzz2Ethi43Zzzz2Ethi20Zzzz3Ethi1aZzz",
    "z6Cher56Zzzz2Cher6Zzzz2Cans280Ogam1dZzzz3Runr4bZyyy3RunrbZzzz7Tglg16Zzzz9Tglg1Hano15Zyyy2Zzzz",
    "9Buhd14ZzzzcTagbdZzzz1Tagb3Zzzz1Tagb2ZzzzcKhmr5eZzzz2KhmraZzzz6KhmraZzzz6Mong2Zyyy2Mong1Zyyy1",
    "Mong14Zzzz6Mong59Zzzz7Mong2bZzzz5Cans46ZzzzaLimb1fZzzz1LimbcZzzz4LimbcZzzz4Limb1Zzzz3LimbcTal",
    "e1eZzzz2Tale5ZzzzbTalu2cZzzz4Talu1aZzzz6TalubZzzz3Talu2Khmr20Bugi1cZzzz2Bugi2Lana3fZzzz1Lana1",
    "dZzzz2LanabZzzz6LanaaZzzz6LanaeZzzz2Zinh1fZzzz31Bali4dZzzz1Bali32Sund40Batk34Zzzz8Batk4Lepc38",
    "Zzzz3LepcfZzzz3Lepc3Olck30CyrlbZzzz5Geor2bZzzz2Geor3Sund8Zzzz8Zinh3Zyyy1ZinhdZyyy1Zinh7Zyyy4Z",
    "inh1Zyyy6Zinh1Zyyy3Zinh2Zyyy1Zzzz5Latn26Grek5Cyrl1Latn31Grek5Latn4Grek5LatndCyrl1Latn46Grek1Z",
    "inh40Latn100Grek16Zzzz2Grek6Zzzz2Grek26Zzzz2Grek6Zzzz2Grek8Zzzz1Grek1Zzzz1Grek1Zzzz1Grek1Zzzz",
    "1Grek1fZzzz2Grek35Zzzz1GrekfZzzz1GrekeZzzz2Grek6Zzzz1Grek13Zzzz2Grek3Zzzz1Grek9Zzzz1ZyyycZinh",
    "2Zyyy57Zzzz1ZyyybLatn1Zzzz2ZyyybLatn1ZyyyfZzzz1LatndZzzz3Zyyy21ZzzzfZinh21ZzzzfZyyy26Grek1Zyy",
    "y3Latn2Zyyy6Latn1Zyyy1bLatn1Zyyy11Latn29Zyyy3Zzzz4Zyyy29aZzzz16ZyyybZzzz15Zyyy3a0Brai100Zyyy2",
    "74Zzzz2Zyyy20Zzzz1Zyyy69Glag60Latn20Copt74Zzzz5Copt7Geor26Zzzz1Geor1Zzzz5Geor1Zzzz2Tfng38Zzzz",
    "7Tfng2ZzzzeTfng1Ethi17Zzzz9Ethi7Zzzz1Ethi7Zzzz1Ethi7Zzzz1Ethi7Zzzz1Ethi7Zzzz1Ethi7Zzzz1Ethi7Z",
    "zzz1Ethi7Zzzz1Cyrl20Zyyy5eZzzz22Hani1aZzzz1Hani59ZzzzcHanid6Zzzz1aZyyy15Hani1Zyyy1Hani1Zyyy19",
    "Hani9Zinh4Hang2Zyyy8Hani4Zyyy4Zzzz1Hira56Zzzz2Zinh2Zyyy2Hira3Zyyy1Kana5aZyyy2Kana3Zzzz5Bopo2b",
    "Zzzz1Hang5eZzzz1Zyyy10Bopo20Zyyy26Zzzz9Zyyy1Kana10Hang1fZzzz1Zyyy40Hang1fZyyy51Kana2fZyyy1Kan",
    "a58Zyyya8Hani19c0Zyyy40Hani5200Yiii48dZzzz3Yiii37Zzzz9Lisu30Vaii12cZzzz14Cyrl60Bamu58Zzzz8Zyy",
    "y22Latn66Zyyy3Latn43Zzzz2Latn2Zzzz1Latn1Zzzz1Latn8Zzzz15LatneSylo2dZzzz3ZyyyaZzzz6Phag38Zzzz8",
    "Saur46Zzzz8SaurcZzzz6Deva20Kali2eZyyy1Kali1Rjng24ZzzzbRjng1Hang1dZzzz3Java4eZzzz1Zyyy1JavaaZz",
    "zz4Java2Mymr1fZzzz1Cham37Zzzz9ChameZzzz2ChamaZzzz2Cham4Mymr20Tavt43Zzzz18Tavt5Mtei17ZzzzaEthi",
    "6Zzzz2Ethi6Zzzz2Ethi6Zzzz9Ethi7Zzzz1Ethi7Zzzz1Latn2bZyyy1Latn9Grek1Latn4Zyyy2Zzzz4Cher50Mtei2",
    "eZzzz2MteiaZzzz6Hang2ba4ZzzzcHang17Zzzz4Hang31Zzzz2104Hani16eZzzz2Hani6aZzzz26Latn7ZzzzcArmn5",
    "Zzzz5Hebr1aZzzz1Hebr5Zzzz1Hebr1Zzzz1Hebr2Zzzz1Hebr2Zzzz1HebraArab73Zzzz10Arab16bZyyy2Arab50Zz",
    "zz2Arab36Zzzz7Arab1Zzzz20Arab10Zinh10ZyyyaZzzz6ZinheCyrl2Zyyy23Zzzz1Zyyy13Zzzz1Zyyy4Zzzz4Arab",
    "5Zzzz1Arab87Zzzz2Zyyy1Zzzz1Zyyy20Latn1aZyyy6Latn1aZyyybKanaaZyyy1Kana2dZyyy2Hang1fZzzz3Hang6Z",
    "zzz2Hang6Zzzz2Hang6Zzzz2Hang3Zzzz3Zyyy7Zzzz1Zyyy7ZzzzaZyyy5Zzzz2LinbcZzzz1Linb1aZzzz1Linb13Zz",
    "zz1Linb2Zzzz1LinbfZzzz2LinbeZzzz22Linb7bZzzz5Zyyy3Zzzz4Zyyy2dZzzz3Zyyy9Grek4fZzzz1ZyyydZzzz3G",
    "rek1Zzzz2fZyyy2dZinh1Zzzz82Lyci1dZzzz3Cari31ZzzzfZinh1Zyyy1bZzzz4Ital24Zzzz9Ital3Goth1bZzzz5P",
    "erm2bZzzz5Ugar1eZzzz1Ugar1Xpeo24Zzzz4XpeoeZzzz2aDsrt50Shaw30Osma1eZzzz2OsmaaZzzz6Osge24Zzzz4O",
    "sge24Zzzz4Elba28Zzzz8Aghb34ZzzzbAghb1VithbZzzz1VithfZzzz1Vith7Zzzz1Vith2Zzzz1VithbZzzz1VithfZ",
    "zzz1Vith7Zzzz1Vith2Zzzz3Todr34ZzzzcLina137Zzzz9Lina16ZzzzaLina8Zzzz18Latn6Zzzz1Latn2aZzzz1Lat",
    "n9Zzzz45Cprt6Zzzz2Cprt1Zzzz1Cprt2cZzzz1Cprt2Zzzz3Cprt1Zzzz2Cprt1Armi16Zzzz1Armi9Palm20Nbat1fZ",
    "zzz8Nbat9Zzzz30Hatr13Zzzz1Hatr2Zzzz5Hatr5Phnx1cZzzz3Phnx1Lydi1aZzzz5Lydi1Zzzz40Mero20Merc18Zz",
    "zz4Merc14Zzzz2Merc2eKhar4Zzzz1Khar2Zzzz5Khar8Zzzz1Khar3Zzzz1Khar1dZzzz2Khar3Zzzz4KharaZzzz7Kh",
    "ar9Zzzz7Sarb20Narb20Zzzz20Mani27Zzzz4ManicZzzz9Avst36Zzzz3Avst7Prti16Zzzz2Prti8Phli13Zzzz5Phl",
    "i8Phlp12Zzzz7Phlp4ZzzzcPhlp7Zzzz50Orkh49Zzzz37Hung33ZzzzdHung33Zzzz7Hung6Rohg28Zzzz8RohgaZzzz",
    "6Gara26Zzzz3Gara1dZzzz8Gara2Zzzzd0Arab1fZzzz1Yezi2aZzzz1Yezi3Zzzz2Yezi2Zzzz10Arab3Zzzz37Arab4",
    "Sogo28Zzzz8Sogd2aZzzz16Ougr1aZzzz26Chrs1cZzzz14Elym17Zzzz9Brah4eZzzz4Brah24Zzzz9Brah1Kthi43Zz",
    "zzaKthi1Zzzz2Sora19Zzzz7SoraaZzzz6Cakm35Zzzz1Cakm12Zzzz8Mahj27Zzzz9Shrd60Zzzz1Sinh14ZzzzbKhoj",
    "12Zzzz1Khoj2fZzzz3eMult7Zzzz1Mult1Zzzz1Mult4Zzzz1MultfZzzz1MultbZzzz6Sind3bZzzz5SindaZzzz6Gra",
    "n4Zzzz1Gran8Zzzz2Gran2Zzzz2Gran16Zzzz1Gran7Zzzz1Gran2Zzzz1Gran5Zzzz1Zinh1Gran9Zzzz2Gran2Zzzz2",
    "Gran3Zzzz2Gran1Zzzz6Gran1Zzzz5Gran7Zzzz2Gran7Zzzz3Gran5ZzzzbTutgaZzzz1Tutg1Zzzz2Tutg1Zzzz1Tut",
    "g26Zzzz1TutgaZzzz1Tutg1Zzzz2Tutg1Zzzz1Tutg4Zzzz1TutgaZzzz1Tutg2Zzzz8Tutg2Zzzz1dNewa5cZzzz1New",
    "a5Zzzz1eTirh48Zzzz8TirhaZzzza6Sidd36Zzzz2Sidd26Zzzz22Modi45ZzzzbModiaZzzz6MongdZzzz13Takr3aZz",
    "zz6TakraZzzz6Mymr14Zzzz1cAhom1bZzzz2AhomfZzzz4Ahom17Zzzzb9Dogr3cZzzz64Wara53ZzzzcWara1Diak7Zz",
    "zz2Diak1Zzzz2Diak8Zzzz1Diak2Zzzz1Diak1eZzzz1Diak2Zzzz2DiakcZzzz9DiakaZzzz46Nand8Zzzz2Nand2eZz",
    "zz2NandbZzzz1bZanb48Zzzz8Soyo53ZzzzdCans10Pauc39Zzzz7DevaaZzzzb6Sunu22ZzzzeSunuaZzzz6Bhks9Zzz",
    "z1Bhks2dZzzz1BhkseZzzzaBhks1dZzzz3Marc20Zzzz2Marc16Zzzz1MarceZzzz49Gonm7Zzzz1Gonm2Zzzz1Gonm2c",
    "Zzzz3Gonm1Zzzz1Gonm2Zzzz1Gonm9Zzzz8GonmaZzzz6Gong6Zzzz1Gong2Zzzz1Gong25Zzzz1Gong2Zzzz1Gong6Zz",
    "zz7GongaZzzz136Maka19Zzzz7Kawi11Zzzz1Kawi29Zzzz3Kawi1dZzzz55Lisu1ZzzzfTaml32ZzzzdTaml1Xsux39a",
    "Zzzz66Xsux6fZzzz1Xsux5ZzzzbXsuxc4Zzzza4cCpmn63ZzzzdEgyp456ZzzzaEgypf9bZzzz5Hluw247Zzzz1ab9Guk",
    "h3aZzzz6c6Bamu239Zzzz7Mroo1fZzzz1MrooaZzzz4Mroo2Tnsa4fZzzz1TnsaaZzzz6Bass1eZzzz2Bass6ZzzzaHmn",
    "g46ZzzzaHmngaZzzz1Hmng7Zzzz1Hmng15Zzzz5Hmng13Zzzz1b0Krai3aZzzzc6Medf5bZzzz65Plrd4bZzzz4Plrd39",
    "Zzzz7Plrd11Zzzz40Tang1Nshu1Hani2Kits1ZzzzbHani2ZzzzeTang17f8Zzzz8Tang300Kits1d6Zzzz29Kits1Tan",
    "g9Zzzz22e7Kana4Zzzz1Kana7Zzzz1Kana2Zzzz1Kana1Hira11fKana3ZzzzfHira1Zzzz1dHira3Zzzz2Kana1Zzzze",
    "Kana4Zzzz8Nshu18cZzzz904Dupl6bZzzz5DupldZzzz3Dupl9Zzzz7DuplaZzzz2Dupl4Zyyy4Zzzzf5cZyyyfaZzzz6",
    "Zyyy1b4Zzzz4cZinh2eZzzz2Zinh17Zzzz9Zyyy74Zzzz3cZyyyf6ZzzzaZyyy27Zzzz2Zyyy3eZinh3Zyyy11Zinh8Zy",
    "yy2Zinh7Zyyy1eZinh4Zyyy3dZzzz15Grek46Zzzz7aZyyy14ZzzzcZyyy14ZzzzcZyyy57Zzzz9Zyyy19Zzzz87Zyyy5",
    "5Zzzz1Zyyy47Zzzz1Zyyy2Zzzz2Zyyy1Zzzz2Zyyy2Zzzz2Zyyy4Zzzz1ZyyycZzzz1Zyyy1Zzzz1Zyyy7Zzzz1Zyyy41",
    "Zzzz1Zyyy4Zzzz2Zyyy8Zzzz1Zyyy7Zzzz1Zyyy1cZzzz1Zyyy4Zzzz1Zyyy5Zzzz1Zyyy1Zzzz3Zyyy7Zzzz1Zyyy154",
    "Zzzz2Zyyy124Zzzz2Zyyy32Sgnw28cZzzzfSgnw5Zzzz1SgnwfZzzz450Latn1fZzzz6Latn6Zzzzd5Glag7Zzzz1Glag",
    "11Zzzz2Glag7Zzzz1Glag2Zzzz1Glag5Zzzz5Cyrl3eZzzz21Cyrl1Zzzz70Hmnp2dZzzz3HmnpeZzzz2HmnpaZzzz4Hm",
    "np2Zzzz140Toto1fZzzz11Wcho3aZzzz5Wcho1Zzzz1d0Nagm2aZzzzd6Onao2bZzzz4Onao1Zzzz1e0Ethi7Zzzz1Eth",
    "i4Zzzz1Ethi2Zzzz1EthifZzzz1Mendc5Zzzz2Mend10Zzzz29Adlm4cZzzz4AdlmaZzzz4Adlm2Zzzz311Zyyy44Zzzz",
    "4cZyyy3dZzzzc2Arab4Zzzz1Arab1bZzzz1Arab2Zzzz1Arab1Zzzz2Arab1Zzzz1ArabaZzzz1Arab4Zzzz1Arab1Zzz",
    "z1Arab1Zzzz6Arab1Zzzz4Arab1Zzzz1Arab1Zzzz1Arab1Zzzz1Arab3Zzzz1Arab2Zzzz1Arab1Zzzz2Arab1Zzzz1A",
    "rab1Zzzz1Arab1Zzzz1Arab1Zzzz1Arab1Zzzz1Arab2Zzzz1Arab1Zzzz2Arab4Zzzz1Arab7Zzzz1Arab4Zzzz1Arab",
    "4Zzzz1Arab1Zzzz1ArabaZzzz1Arab11Zzzz5Arab3Zzzz1Arab5Zzzz1Arab11Zzzz34Arab2Zzzz10eZyyy2cZzzz4Z",
    "yyy64ZzzzcZyyyfZzzz2ZyyyfZzzz1ZyyyfZzzz1Zyyy25ZzzzaZyyyaeZzzz38Zyyy1aHira1Zyyy2ZzzzdZyyy2cZzz",
    "z4Zyyy9Zzzz7Zyyy2ZzzzeZyyy6Zzzz9aZyyy3d8Zzzz4Zyyy11Zzzz3ZyyydZzzz3Zyyy77Zzzz4Zyyy5fZzzz6Zyyyc",
    "Zzzz4Zyyy1ZzzzfZyyycZzzz4Zyyy38Zzzz8ZyyyaZzzz6Zyyy28Zzzz8Zyyy1eZzzz2ZyyycZzzz4Zyyy2Zzzz3eZyyy",
    "154ZzzzcZyyyeZzzz2ZyyydZzzz3ZyyyaZzzz5Zyyy38Zzzz7ZyyyfZzzz2ZyyybZzzz6Zyyy9Zzzz7Zyyy93Zzzz1Zyy",
    "y66Zzzz406Hania6e0Zzzz20Hani103aZzzz6HanideZzzz2Hani1682ZzzzeHani1d31ZzzzfHani26eZzzz9a2Hani2",
    "1eZzzz5e2Hani134bZzzz5Hani1060Zzzzadc51Zyyy1Zzzz1eZyyy60Zzzz80Zinhf0Zzzz2fe10"]

/-- The script of each run. -/
def scripts : Partition := Partition.ofCode 4 scriptRuns

/-- The code points that are used with other scripts than their own, by the scripts they are used
with. -/
def sharedByScripts : List (String × Ranges) :=
  [("Avst Cari Copt Dupl Elba Geor Glag Gong Goth Grek Hani Latn Lydi Mahj Perm Shaw",
    [(0xB7, 0xB7)]),
   ("Beng Cyrl Deva Latn Lisu Thai Toto", [(0x2BC, 0x2BC)]),
   ("Bopo Latn", [(0x2C7, 0x2C7), (0x2C9, 0x2CB), (0x2D9, 0x2D9)]),
   ("Latn Lisu", [(0x2CD, 0x2CD)]),
   ("Latn Thai", [(0x2D7, 0x2D7)]),
   ("Cher Copt Cyrl Grek Latn Perm Sunu Tale", [(0x300, 0x300)]),
   ("Cher Cyrl Grek Latn Osge Sunu Tale Todr", [(0x301, 0x301)]),
   ("Cher Cyrl Latn Tfng", [(0x302, 0x302)]),
   ("Glag Latn Sunu Syrc Thai", [(0x303, 0x303)]),
   ("Aghb Cher Copt Cyrl Goth Grek Latn Osge Syrc Tfng Todr", [(0x304, 0x304)]),
   ("Copt Elba Glag Goth Kana Latn", [(0x305, 0x305)]),
   ("Cyrl Grek Latn Perm", [(0x306, 0x306)]),
   ("Copt Dupl Hebr Latn Perm Syrc Tale Tfng Todr", [(0x307, 0x307)]),
   ("Armn Cyrl Dupl Goth Grek Hebr Latn Perm Syrc Tale", [(0x308, 0x308)]),
   ("Latn Tfng", [(0x309, 0x309)]),
   ("Dupl Latn Syrc", [(0x30A, 0x30A)]),
   ("Cher Cyrl Latn Osge", [(0x30B, 0x30B)]),
   ("Cher Latn Tale", [(0x30C, 0x30C)]),
   ("Latn Sunu", [(0x30D, 0x30D), (0x310, 0x310)]),
   ("Ethi Latn", [(0x30E, 0x30E)]),
   ("Cyrl Latn Todr", [(0x311, 0x311)]),
   ("Grek Latn Perm Todr", [(0x313, 0x313)]),
   ("Latn Syrc", [(0x320, 0x320), (0x325, 0x325), (0x32E, 0x32E)]),
   ("Cher Dupl Kana Latn Syrc", [(0x323, 0x323)]),
   ("Cher Dupl Latn Syrc", [(0x324, 0x324)]),
   ("Latn Sunu Syrc", [(0x32D, 0x32D)]),
   ("Cher Latn Syrc", [(0x330, 0x330)]),
   ("Aghb Cher Goth Latn Sunu Thai", [(0x331, 0x331)]),
   ("Grek", [(0x342, 0x342), (0x345, 0x345), (0x1DC0, 0x1DC1)]),
   ("Latn Osge", [(0x358, 0x358)]),
   ("Aghb Latn Todr", [(0x35E, 0x35E)]),
   ("Latn", [(0x363, 0x36F)]),
   ("Copt Grek", [(0x374, 0x375)]),
   ("Cyrl Perm", [(0x483, 0x483)]),
   ("Cyrl Glag", [(0x484, 0x484), (0x487, 0x487), (0x2E43, 0x2E43), (0xA66F, 0xA66F)]),
   ("Cyrl Latn", [(0x485, 0x486)]),
   ("Armn Geor Glag", [(0x589, 0x589)]),
   ("Arab Gara Nkoo Rohg Syrc Thaa Yezi", [(0x60C, 0x60C), (0x61B, 0x61B)]),
   ("Arab Syrc Thaa", [(0x61C, 0x61C)]),
   ("Adlm Arab Gara Nkoo Rohg Syrc Thaa Yezi", [(0x61F, 0x61F)]),
   ("Adlm Arab Mand Mani Ougr Phlp Rohg Sogd Syrc", [(0x640, 0x640)]),
   ("Arab Syrc", [(0x64B, 0x655), (0x670, 0x670)]),
   ("Arab Thaa Yezi", [(0x660, 0x669)]),
   ("Arab Rohg", [(0x6D4, 0x6D4)]),
   ("Beng Deva Gran Gujr Guru Knda Latn Mlym Orya Shrd Taml Telu Tirh", [(0x951, 0x951)]),
   ("Beng Deva Gran Gujr Guru Knda Latn Mlym Orya Taml Telu Tirh", [(0x952, 0x952)]),
   ("Beng Deva Dogr Gong Gonm Gran Gujr Guru Knda Mahj Mlym Nand Onao Orya Sind Sinh Sylo " ++
      "Takr Taml Telu Tirh",
     [(0x964, 0x964)]),
   ("Beng Deva Dogr Gong Gonm Gran Gujr Gukh Guru Knda Limb Mahj Mlym Nand Onao Orya Sind " ++
      "Sinh Sylo Takr Taml Telu Tirh",
     [(0x965, 0x965)]),
   ("Deva Dogr Kthi Mahj", [(0x966, 0x96F)]),
   ("Beng Cakm Sylo", [(0x9E6, 0x9EF)]),
   ("Guru Mult", [(0xA66, 0xA6F)]),
   ("Gujr Khoj", [(0xAE6, 0xAEF)]),
   ("Gran Taml", [(0xBE6, 0xBF3), (0x11301, 0x11301), (0x11303, 0x11303), (0x1133B, 0x1133C),
     (0x11FD0, 0x11FD1), (0x11FD3, 0x11FD3)]),
   ("Knda Nand Tutg", [(0xCE6, 0xCEF)]),
   ("Cakm Mymr Tale", [(0x1040, 0x1049)]),
   ("Geor Glag Latn", [(0x10FB, 0x10FB)]),
   ("Runr", [(0x16EB, 0x16ED)]),
   ("Buhd Hano Tagb Tglg", [(0x1735, 0x1736)]),
   ("Mong Phag", [(0x1802, 0x1803), (0x1805, 0x1805)]),
   ("Beng Deva Gran Knda", [(0x1CD0, 0x1CD0), (0x1CD2, 0x1CD2)]),
   ("Deva", [(0x1CD1, 0x1CD1), (0x1CD4, 0x1CD4), (0x1CDB, 0x1CDB), (0x1CDE, 0x1CDF), (0x1CE2,
     0x1CE8), (0x1CEB, 0x1CEC), (0x1CEE, 0x1CF1)]),
   ("Deva Gran Knda", [(0x1CD3, 0x1CD3)]),
   ("Beng Deva", [(0x1CD5, 0x1CD6), (0x1CD8, 0x1CD8), (0x1CE1, 0x1CE1), (0x1CEA, 0x1CEA), (0x1CED,
     0x1CED), (0x1CF5, 0x1CF6)]),
   ("Deva Shrd", [(0x1CD7, 0x1CD7), (0x1CD9, 0x1CD9), (0x1CDC, 0x1CDD), (0x1CE0, 0x1CE0)]),
   ("Deva Knda Mlym Orya Taml Telu", [(0x1CDA, 0x1CDA)]),
   ("Deva Nand", [(0x1CE9, 0x1CE9)]),
   ("Beng Deva Gran Knda Mlym Nand Orya Sinh Telu Tirh Tutg", [(0x1CF2, 0x1CF2)]),
   ("Deva Gran", [(0x1CF3, 0x1CF3), (0x1CF8, 0x1CF9)]),
   ("Deva Gran Knda Tutg", [(0x1CF4, 0x1CF4)]),
   ("Beng", [(0x1CF7, 0x1CF7)]),
   ("Nand", [(0x1CFA, 0x1CFA)]),
   ("Cyrl Latn Syrc", [(0x1DF8, 0x1DF8)]),
   ("Syrc", [(0x1DFA, 0x1DFA)]),
   ("Latn Mong Phag", [(0x202F, 0x202F)]),
   ("Adlm Arab", [(0x204F, 0x204F)]),
   ("Cari Geor Glag Hung Lyci Orkh", [(0x205A, 0x205A)]),
   ("Cari Grek Hung Mero", [(0x205D, 0x205D)]),
   ("Deva Gran Latn", [(0x20F0, 0x20F0)]),
   ("Copt Latn", [(0x2E17, 0x2E17)]),
   ("Avst Orkh", [(0x2E30, 0x2E30)]),
   ("Avst Cari Geor Hung Kthi Lydi Samr", [(0x2E31, 0x2E31)]),
   ("Dupl", [(0x2E3C, 0x2E3C), (0x1BCA0, 0x1BCA3)]),
   ("Adlm Arab Hung", [(0x2E41, 0x2E41)]),
   ("Hani Tang", [(0x2FF0, 0x2FFF), (0x31EF, 0x31EF)]),
   ("Bopo Hang Hani Hira Kana Mong Yiii", [(0x3001, 0x3001)]),
   ("Bopo Hang Hani Hira Kana Mong Phag Yiii", [(0x3002, 0x3002)]),
   ("Bopo Hang Hani Hira Kana", [(0x3003, 0x3003), (0x3013, 0x3013), (0x301C, 0x301F), (0x3030,
     0x3030), (0x3037, 0x3037), (0xFE45, 0xFE46)]),
   ("Hani", [(0x3006, 0x3006), (0x303E, 0x303F), (0x3190, 0x319F), (0x31C0, 0x31E5), (0x3220,
     0x3247), (0x3280, 0x32B0), (0x32C0, 0x32CB), (0x32FF, 0x32FF), (0x3358, 0x3370), (0x337B,
     0x337F), (0x33E0, 0x33FE), (0x1D360, 0x1D371), (0x1F250, 0x1F251)]),
   ("Bopo Hang Hani Hira Kana Mong Tibt Yiii", [(0x3008, 0x3009)]),
   ("Bopo Hang Hani Hira Kana Lisu Mong Tibt Yiii", [(0x300A, 0x300B)]),
   ("Bopo Hang Hani Hira Kana Yiii", [(0x300C, 0x3011), (0x3014, 0x301B), (0x30FB, 0x30FB),
     (0xFF61, 0xFF65)]),
   ("Bopo Hani", [(0x302A, 0x302D)]),
   ("Hira Kana", [(0x3031, 0x3035), (0x3099, 0x309C), (0x30A0, 0x30A0), (0x30FC, 0x30FC), (0xFF70,
     0xFF70), (0xFF9E, 0xFF9F)]),
   ("Hani Hira Kana", [(0x303C, 0x303D)]),
   ("Hani Latn", [(0xA700, 0xA707)]),
   ("Deva Dogr Gujr Guru Khoj Knda Kthi Mahj Mlym Modi Nand Shrd Sind Takr Tirh Tutg", [(0xA830,
     0xA832)]),
   ("Deva Dogr Gujr Guru Khoj Knda Kthi Mahj Modi Nand Shrd Sind Takr Tirh Tutg",
     [(0xA833, 0xA835)]),
   ("Deva Dogr Gujr Guru Khoj Kthi Mahj Modi Sind Takr Tirh", [(0xA836, 0xA837), (0xA839, 0xA839)]),
   ("Deva Dogr Gujr Guru Khoj Kthi Mahj Modi Shrd Sind Takr Tirh", [(0xA838, 0xA838)]),
   ("Beng Deva Tutg", [(0xA8F1, 0xA8F1)]),
   ("Deva Taml", [(0xA8F3, 0xA8F3)]),
   ("Kali Latn Mymr", [(0xA92E, 0xA92E)]),
   ("Bugi Java", [(0xA9CF, 0xA9CF)]),
   ("Arab Nkoo", [(0xFD3E, 0xFD3F)]),
   ("Arab Thaa", [(0xFDF2, 0xFDF2), (0xFDFD, 0xFDFD)]),
   ("Cpmn Cprt Linb", [(0x10100, 0x10101)]),
   ("Cprt Linb", [(0x10102, 0x10102), (0x10137, 0x1013F)]),
   ("Cprt Lina Linb", [(0x10107, 0x10133)]),
   ("Arab Copt", [(0x102E0, 0x102FB)]),
   ("Mani Ougr", [(0x10AF2, 0x10AF2)])]

/-- The scripts by their four letters, with their names, which are without blanks, dashes and
underscores and in lower case. -/
def scriptNames : List (String × List String) :=
  [("Adlm", ["adlm", "adlam"]), ("Aghb", ["aghb", "caucasianalbanian"]), ("Ahom", ["ahom"]),
   ("Arab", ["arab", "arabic"]), ("Armi", ["armi", "imperialaramaic"]),
   ("Armn", ["armn", "armenian"]), ("Avst", ["avst", "avestan"]), ("Bali", ["bali", "balinese"]),
   ("Bamu", ["bamu", "bamum"]), ("Bass", ["bass", "bassavah"]), ("Batk", ["batk", "batak"]),
   ("Beng", ["beng", "bengali"]), ("Bhks", ["bhks", "bhaiksuki"]),
   ("Bopo", ["bopo", "bopomofo"]), ("Brah", ["brah", "brahmi"]), ("Brai", ["brai", "braille"]),
   ("Bugi", ["bugi", "buginese"]), ("Buhd", ["buhd", "buhid"]), ("Cakm", ["cakm", "chakma"]),
   ("Cans", ["cans", "canadianaboriginal"]), ("Cari", ["cari", "carian"]), ("Cham", ["cham"]),
   ("Cher", ["cher", "cherokee"]), ("Chrs", ["chrs", "chorasmian"]),
   ("Copt", ["copt", "coptic", "qaac"]), ("Cpmn", ["cpmn", "cyprominoan"]),
   ("Cprt", ["cprt", "cypriot"]), ("Cyrl", ["cyrl", "cyrillic"]),
   ("Deva", ["deva", "devanagari"]), ("Diak", ["diak", "divesakuru"]),
   ("Dogr", ["dogr", "dogra"]), ("Dsrt", ["dsrt", "deseret"]), ("Dupl", ["dupl", "duployan"]),
   ("Egyp", ["egyp", "egyptianhieroglyphs"]), ("Elba", ["elba", "elbasan"]),
   ("Elym", ["elym", "elymaic"]), ("Ethi", ["ethi", "ethiopic"]), ("Gara", ["gara", "garay"]),
   ("Geor", ["geor", "georgian"]), ("Glag", ["glag", "glagolitic"]),
   ("Gong", ["gong", "gunjalagondi"]), ("Gonm", ["gonm", "masaramgondi"]),
   ("Goth", ["goth", "gothic"]), ("Gran", ["gran", "grantha"]), ("Grek", ["grek", "greek"]),
   ("Gujr", ["gujr", "gujarati"]), ("Gukh", ["gukh", "gurungkhema"]),
   ("Guru", ["guru", "gurmukhi"]), ("Hang", ["hang", "hangul"]), ("Hani", ["hani", "han"]),
   ("Hano", ["hano", "hanunoo"]), ("Hatr", ["hatr", "hatran"]), ("Hebr", ["hebr", "hebrew"]),
   ("Hira", ["hira", "hiragana"]), ("Hluw", ["hluw", "anatolianhieroglyphs"]),
   ("Hmng", ["hmng", "pahawhhmong"]), ("Hmnp", ["hmnp", "nyiakengpuachuehmong"]),
   ("Hung", ["hung", "oldhungarian"]), ("Ital", ["ital", "olditalic"]),
   ("Java", ["java", "javanese"]), ("Kali", ["kali", "kayahli"]), ("Kana", ["kana", "katakana"]),
   ("Kawi", ["kawi"]), ("Khar", ["khar", "kharoshthi"]), ("Khmr", ["khmr", "khmer"]),
   ("Khoj", ["khoj", "khojki"]), ("Kits", ["kits", "khitansmallscript"]),
   ("Knda", ["knda", "kannada"]), ("Krai", ["krai", "kiratrai"]), ("Kthi", ["kthi", "kaithi"]),
   ("Lana", ["lana", "taitham"]), ("Laoo", ["laoo", "lao"]), ("Latn", ["latn", "latin"]),
   ("Lepc", ["lepc", "lepcha"]), ("Limb", ["limb", "limbu"]), ("Lina", ["lina", "lineara"]),
   ("Linb", ["linb", "linearb"]), ("Lisu", ["lisu"]), ("Lyci", ["lyci", "lycian"]),
   ("Lydi", ["lydi", "lydian"]), ("Mahj", ["mahj", "mahajani"]), ("Maka", ["maka", "makasar"]),
   ("Mand", ["mand", "mandaic"]), ("Mani", ["mani", "manichaean"]),
   ("Marc", ["marc", "marchen"]), ("Medf", ["medf", "medefaidrin"]),
   ("Mend", ["mend", "mendekikakui"]), ("Merc", ["merc", "meroiticcursive"]),
   ("Mero", ["mero", "meroitichieroglyphs"]), ("Mlym", ["mlym", "malayalam"]),
   ("Modi", ["modi"]), ("Mong", ["mong", "mongolian"]), ("Mroo", ["mroo", "mro"]),
   ("Mtei", ["mtei", "meeteimayek"]), ("Mult", ["mult", "multani"]),
   ("Mymr", ["mymr", "myanmar"]), ("Nagm", ["nagm", "nagmundari"]),
   ("Nand", ["nand", "nandinagari"]), ("Narb", ["narb", "oldnortharabian"]),
   ("Nbat", ["nbat", "nabataean"]), ("Newa", ["newa"]), ("Nkoo", ["nkoo", "nko"]),
   ("Nshu", ["nshu", "nushu"]), ("Ogam", ["ogam", "ogham"]), ("Olck", ["olck", "olchiki"]),
   ("Onao", ["onao", "olonal"]), ("Orkh", ["orkh", "oldturkic"]), ("Orya", ["orya", "oriya"]),
   ("Osge", ["osge", "osage"]), ("Osma", ["osma", "osmanya"]), ("Ougr", ["ougr", "olduyghur"]),
   ("Palm", ["palm", "palmyrene"]), ("Pauc", ["pauc", "paucinhau"]),
   ("Perm", ["perm", "oldpermic"]), ("Phag", ["phag", "phagspa"]),
   ("Phli", ["phli", "inscriptionalpahlavi"]), ("Phlp", ["phlp", "psalterpahlavi"]),
   ("Phnx", ["phnx", "phoenician"]), ("Plrd", ["plrd", "miao"]),
   ("Prti", ["prti", "inscriptionalparthian"]), ("Rjng", ["rjng", "rejang"]),
   ("Rohg", ["rohg", "hanifirohingya"]), ("Runr", ["runr", "runic"]),
   ("Samr", ["samr", "samaritan"]), ("Sarb", ["sarb", "oldsoutharabian"]),
   ("Saur", ["saur", "saurashtra"]), ("Sgnw", ["sgnw", "signwriting"]),
   ("Shaw", ["shaw", "shavian"]), ("Shrd", ["shrd", "sharada"]), ("Sidd", ["sidd", "siddham"]),
   ("Sind", ["sind", "khudawadi"]), ("Sinh", ["sinh", "sinhala"]), ("Sogd", ["sogd", "sogdian"]),
   ("Sogo", ["sogo", "oldsogdian"]), ("Sora", ["sora", "sorasompeng"]),
   ("Soyo", ["soyo", "soyombo"]), ("Sund", ["sund", "sundanese"]), ("Sunu", ["sunu", "sunuwar"]),
   ("Sylo", ["sylo", "sylotinagri"]), ("Syrc", ["syrc", "syriac"]),
   ("Tagb", ["tagb", "tagbanwa"]), ("Takr", ["takr", "takri"]), ("Tale", ["tale", "taile"]),
   ("Talu", ["talu", "newtailue"]), ("Taml", ["taml", "tamil"]), ("Tang", ["tang", "tangut"]),
   ("Tavt", ["tavt", "taiviet"]), ("Telu", ["telu", "telugu"]), ("Tfng", ["tfng", "tifinagh"]),
   ("Tglg", ["tglg", "tagalog"]), ("Thaa", ["thaa", "thaana"]), ("Thai", ["thai"]),
   ("Tibt", ["tibt", "tibetan"]), ("Tirh", ["tirh", "tirhuta"]), ("Tnsa", ["tnsa", "tangsa"]),
   ("Todr", ["todr", "todhri"]), ("Toto", ["toto"]), ("Tutg", ["tutg", "tulutigalari"]),
   ("Ugar", ["ugar", "ugaritic"]), ("Vaii", ["vaii", "vai"]), ("Vith", ["vith", "vithkuqi"]),
   ("Wara", ["wara", "warangciti"]), ("Wcho", ["wcho", "wancho"]),
   ("Xpeo", ["xpeo", "oldpersian"]), ("Xsux", ["xsux", "cuneiform"]),
   ("Yezi", ["yezi", "yezidi"]), ("Yiii", ["yiii", "yi"]), ("Zanb", ["zanb", "zanabazarsquare"]),
   ("Zinh", ["zinh", "inherited", "qaai"]), ("Zyyy", ["zyyy", "common"]),
   ("Zzzz", ["zzzz", "unknown"])]

/-- The four letters of the script of a given name. No code point is in the script that is called
unknown, and none is in both of the Japanese ones, so that neither has a set. -/
def scriptNamed? (name : String) : Option String :=
  match (scriptNames.find? fun x => name ∈ x.2).map (·.1) with
  | some "Zzzz" => none
  | script => script

/-- The code points of a script. -/
def inScript (script : String) : Ranges := scripts.select (· = script)

/-- The code points that are used with a script. -/
def usedWithScript (script : String) : Ranges :=
  let shared := Ranges.ofList (sharedByScripts.flatMap (·.2))
  let others := sharedByScripts.filter fun x => script ∈ x.1.splitOn " "
  Ranges.ofList ((inScript script).diff shared ++ others.flatMap (·.2))

end NativeBuild.Unicode
